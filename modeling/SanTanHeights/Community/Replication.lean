import SanTanHeights.Community.Entries
import SanTanHeights.Community.Patterns

/-!
# What a replicated pattern rests on

A pattern that is replicated was estimated on populations that share no
observation with each other or with the discovery population that was given.
-/

namespace SanTanHeights.Community.Patterns

open Foundation Foundation.Outcome Foundation.Keyed Shared
open History (TemporalLedger buildTemporalLedger buildTemporalLedger_eq_ok
  sortedSet validateFp validateLedgerReplay)

variable {F : Type} [PyFloat F]

variable {candidate : GovernedPatternCandidate F}
  {registry : PatternRegistry F} {population : PatternPopulation}

/-! ## What the calls ask of their arguments -/

theorem makeCandidate_eq_ok {given : GovernedPatternCandidate F} :
    makeCandidate given = .ok candidate ↔
      ∃ fingerprint, given.payload.sha256 = .ok fingerprint ∧
        { given with candidateFingerprint := fingerprint } = candidate := by
  simp only [makeCandidate, bind_eq_ok, pure_eq_ok]

/-- What `discover_pattern` asks of its arguments. -/
structure DiscoveryCall.Acceptable (call : DiscoveryCall F) : Prop where
  replays : validateLedgerReplay call.ledger = .ok true
  role : call.discoveryPopulation.role = "DISCOVERY"
  domain : call.discoveryPopulation.domain = call.domain

theorem discoverPattern_eq_ok {call : DiscoveryCall F} :
    discoverPattern registry call = .ok candidate ↔
      call.Acceptable ∧ ∃ estimate, estimatePattern registry call.observations
            call.discoveryPopulation = .ok estimate ∧
          makeCandidate (call.draftCandidate registry estimate) = .ok candidate := by
  simp only [discoverPattern, bind_eq_ok, require_eq_ok, exists_const]
  constructor
  · rintro ⟨_, replays, rfl, role, domain, made⟩
    exact ⟨⟨replays, role, domain⟩, made⟩
  · rintro ⟨acceptable, made⟩
    exact ⟨true, acceptable.replays, rfl, acceptable.role, acceptable.domain, made⟩

theorem independent_eq_true_iff {left right : PatternPopulation} :
    independent left right = true ↔ left.observationIds.Disjoint right.observationIds := by
  simp only [independent, List.all_eq_true, decide_eq_true_eq]
  rfl

namespace ReplicationCall

/-- What `validate_and_replicate_pattern` asks of its arguments. -/
structure Acceptable (call : ReplicationCall F) : Prop where
  eligible : call.candidate.state = .validationRequired
  validationRole : call.validationPopulation.role = "VALIDATION"
  replicationRole : call.replicationPopulation.role = "REPLICATION"
  discoveryValidation : call.discoveryPopulation.observationIds.Disjoint
    call.validationPopulation.observationIds
  discoveryReplication : call.discoveryPopulation.observationIds.Disjoint
    call.replicationPopulation.observationIds
  validationReplication : call.validationPopulation.observationIds.Disjoint
    call.replicationPopulation.observationIds

/-- Two estimates that replicate a discovery. -/
structure Confirms (registry : PatternRegistry F) (call : ReplicationCall F)
    (validation replication : PatternEstimate F) : Prop where
  validationN : registry.minimumValidationN ≤ validation.n
  replicationN : registry.minimumReplicationN ≤ replication.n
  validationPeriods : registry.minimumDistinctPeriods ≤ validation.distinctPeriods
  replicationPeriods : registry.minimumDistinctPeriods ≤ replication.distinctPeriods
  direction : registry.requireSameEffectDirection = true →
    validation.effectDirection =
        call.candidate.discoveryEstimate.effectDirection ∧
      replication.effectDirection = call.candidate.discoveryEstimate.effectDirection
  drift : PyFloat.lt registry.maximumAbsoluteReplicationDrift
    (PyFloat.abs (PyFloat.sub replication.effectMagnitude validation.effectMagnitude)) = false
  effect : call.candidate.discoveryEstimate.effectDirection ≠ .null ∧
    validation.effectDirection ≠ .null ∧ replication.effectDirection ≠ .null

@[simp] theorem reasonIf_eq_nil_iff {condition : Bool} {reason : String} :
    reasonIf condition reason = [] ↔ condition = false := by
  cases condition <;> simp [reasonIf]

theorem reasons_eq_nil_iff
    {call : ReplicationCall F} {validation replication : PatternEstimate F} :
    call.reasons registry validation replication = [] ↔
      call.Confirms registry validation replication := by
  simp only [reasons, List.append_eq_nil_iff, reasonIf_eq_nil_iff,
    decide_eq_false_iff_not, not_lt, Bool.and_eq_false_iff,
    Bool.or_eq_false_iff, ne_eq, not_not]
  constructor
  · rintro ⟨⟨⟨⟨⟨⟨validationN, replicationN⟩, validationPeriods⟩,
      replicationPeriods⟩, direction⟩, drift⟩, effect⟩
    exact
      { validationN := validationN
        replicationN := replicationN
        validationPeriods := validationPeriods
        replicationPeriods := replicationPeriods
        direction := fun required =>
          direction.resolve_left (by rw [required]; decide)
        drift := drift
        effect := ⟨effect.1.1, effect.1.2, effect.2⟩ }
  · intro confirms
    refine ⟨⟨⟨⟨⟨⟨confirms.validationN, confirms.replicationN⟩,
      confirms.validationPeriods⟩, confirms.replicationPeriods⟩, ?_⟩,
      confirms.drift⟩, ⟨confirms.effect.1, confirms.effect.2.1⟩, confirms.effect.2.2⟩
    rw [← Bool.not_eq_true, ← imp_iff_not_or]
    exact confirms.direction

end ReplicationCall

theorem validateAndReplicatePattern_eq_ok
    {call : ReplicationCall F} {result : GovernedPatternCandidate F} :
    validateAndReplicatePattern registry call = .ok result ↔
      call.Acceptable ∧ ∃ validation replication,
        estimatePattern registry call.observations
            call.validationPopulation = .ok validation ∧
          estimatePattern registry call.observations
              call.replicationPopulation = .ok replication ∧
            makeCandidate (call.draftCandidate registry validation replication) = .ok result := by
  simp only [validateAndReplicatePattern, bind_eq_ok, require_eq_ok,
    exists_const, independent_eq_true_iff]
  constructor
  · rintro ⟨eligible, roles, discoveryValidation, discoveryReplication,
      validationReplication, validation, validated, replication, replicated, made⟩
    exact ⟨⟨eligible, roles.1, roles.2, discoveryValidation,
      discoveryReplication, validationReplication⟩, validation, replication,
      validated, replicated, made⟩
  · rintro ⟨acceptable, validation, replication, validated, replicated, made⟩
    exact ⟨acceptable.eligible, ⟨acceptable.validationRole, acceptable.replicationRole⟩,
      acceptable.discoveryValidation, acceptable.discoveryReplication,
      acceptable.validationReplication, validation, validated, replication, replicated, made⟩

theorem promotePattern_eq_ok {ledger : TemporalLedger} {promoted : GovernedPatternCandidate F} :
    promotePattern ledger candidate = .ok promoted ↔
      ((candidate.state = .replicated ∧ candidate.promotionState = .eligible) ∧
          candidate.sourceLedgerFingerprint = ledger.ledgerFingerprint ∧
            validateLedgerReplay ledger = .ok true) ∧
        makeCandidate { candidate with
          state := .promoted
          promotionState := .promoted } = .ok promoted := by
  simp only [promotePattern, bind_eq_ok, require_eq_ok, exists_const]
  constructor
  · rintro ⟨eligible, lineage, _, replays, rfl, made⟩
    exact ⟨⟨eligible, lineage, replays⟩, made⟩
  · rintro ⟨⟨eligible, lineage, replays⟩, made⟩
    exact ⟨eligible, lineage, true, replays, rfl, made⟩

/-! ## The law -/

/-- The data that a pattern was tested on are unseen. -/
structure TestedOnUnseenData
    (discovery : DiscoveryCall F) (call : ReplicationCall F) : Prop where
  observations : discovery.discoveryPopulation.observationIds.Disjoint
      (call.validationPopulation.observationIds ++ call.replicationPopulation.observationIds) ∧
    call.validationPopulation.observationIds.Disjoint call.replicationPopulation.observationIds
  sources :
    discovery.discoveryPopulation.sourceEntryFingerprints.Disjoint
      (call.validationPopulation.sourceEntryFingerprints ++
        call.replicationPopulation.sourceEntryFingerprints) ∧
    call.validationPopulation.sourceEntryFingerprints.Disjoint
      call.replicationPopulation.sourceEntryFingerprints
  ledger : call.ledger = discovery.ledger
  domain : call.validationPopulation.domain = discovery.domain ∧
    call.replicationPopulation.domain = discovery.domain

/-- What the checks make sure of. -/
structure ReplicationCall.Tested (registry : PatternRegistry F) (call : ReplicationCall F)
    (result : GovernedPatternCandidate F) : Prop where
  acceptable : call.Acceptable
  estimates : ∃ validation replication,
    estimatePattern registry call.observations call.validationPopulation =
        .ok validation ∧
      estimatePattern registry call.observations
          call.replicationPopulation = .ok replication ∧
        call.Confirms registry validation replication ∧
          result.validationEstimate = some validation ∧
            result.replicationEstimate = some replication
  carried : result.patternId = call.candidate.patternId ∧
    result.domain = call.candidate.domain ∧
      result.statement = call.candidate.statement ∧
        result.discoveryEstimate = call.candidate.discoveryEstimate
  populations :
    result.discoveryPopulationId = call.discoveryPopulation.populationId ∧
      result.validationPopulationId =
          some call.validationPopulation.populationId ∧
        result.replicationPopulationId = some call.replicationPopulation.populationId
  ledger : result.sourceLedgerFingerprint = call.ledger.ledgerFingerprint

/-- A promoted pattern is the replicated one, on a ledger that replays under
the fingerprint of the ledger it was replicated on. -/
structure PromotedFrom (ledger : TemporalLedger) (call : ReplicationCall F)
    (result promoted : GovernedPatternCandidate F) : Prop where
  replays : validateLedgerReplay ledger = .ok true
  ledger : ledger.ledgerFingerprint = call.ledger.ledgerFingerprint
  same : ∃ fingerprint, promoted = { result with
    state := .promoted
    promotionState := .promoted
    candidateFingerprint := fingerprint }

/-- Of a candidate that was discovered and is replicated against the
population it was discovered on, the tests share no observation with each
other or with that population. -/
theorem replicated_on_unseen_observations {discoveryRegistry registry : PatternRegistry F}
    {discovery : DiscoveryCall F} {call : ReplicationCall F}
    {result : GovernedPatternCandidate F}
    (discovered : discoverPattern discoveryRegistry discovery =
      .ok call.candidate)
    (population : call.discoveryPopulation = discovery.discoveryPopulation)
    (validated : validateAndReplicatePattern registry call = .ok result)
    (replicated : result.state = .replicated) :
    discovery.discoveryPopulation.observationIds.Disjoint
        (call.validationPopulation.observationIds ++
          call.replicationPopulation.observationIds) ∧
      call.validationPopulation.observationIds.Disjoint
        call.replicationPopulation.observationIds ∧
      call.Tested registry result ∧
      discovery.Acceptable ∧
      result.discoveryPopulationId = call.candidate.discoveryPopulationId ∧
      estimatePattern discoveryRegistry discovery.observations
        discovery.discoveryPopulation = .ok result.discoveryEstimate ∧
      ∀ ledger promoted, promotePattern ledger result = .ok promoted →
        PromotedFrom ledger call result promoted := by
  obtain ⟨acceptable, validation, replication, validationMade,
    replicationMade, made⟩ :=
      validateAndReplicatePattern_eq_ok.mp validated
  obtain ⟨fingerprint, _, rfl⟩ := makeCandidate_eq_ok.mp made
  have confirms : call.Confirms registry validation replication := by
    rw [← ReplicationCall.reasons_eq_nil_iff]
    by_contra failed
    have state : (call.draftCandidate registry validation
        replication).state = .replicationFailed := if_pos failed
    rw [replicated] at state
    exact absurd state (by decide)
  obtain ⟨discoveryAcceptable, estimate, estimated, candidateMade⟩ :=
    discoverPattern_eq_ok.mp discovered
  obtain ⟨_, _, candidate⟩ := makeCandidate_eq_ok.mp candidateMade
  refine ⟨?_, acceptable.validationReplication, ?_, discoveryAcceptable, ?_,
    ?_, ?_⟩
  · rw [List.disjoint_append_right, ← population]
    exact ⟨acceptable.discoveryValidation, acceptable.discoveryReplication⟩
  · exact
      { acceptable := acceptable
        estimates := ⟨validation, replication, validationMade,
          replicationMade, confirms, rfl, rfl⟩
        carried := ⟨rfl, rfl, rfl, rfl⟩
        populations := ⟨rfl, rfl, rfl⟩
        ledger := rfl }
  · change call.discoveryPopulation.populationId = _
    rw [← candidate, population]
    rfl
  · change _ = Except.ok call.candidate.discoveryEstimate
    rw [← candidate]
    exact estimated
  · intro ledger promoted promotes
    obtain ⟨⟨_, lineage, replays⟩, remade⟩ :=
      promotePattern_eq_ok.mp promotes
    obtain ⟨promotedFingerprint, _, rfl⟩ := makeCandidate_eq_ok.mp remade
    exact ⟨replays, lineage.symm, promotedFingerprint, rfl⟩

/-! ## Observations of one slope -/

/-- An observation as it is made. -/
def fingerprinted (given : PatternObservation ℚ) : PatternObservation ℚ :=
  { given.tidied with
    observationFingerprint := given.tidied.payload.sha256.toOption.getD "" }

/-- The fingerprint of a ledger entry. -/
def sampleSource : String :=
  "ffffffffffffffffffffffffffffffffffffffffffffffffffffffffffffffff"

/-- An observation of a group whose outcome is its exposure. -/
def sampleObservation (group : String) (start index : Nat) : PatternObservation ℚ where
  observationId := group ++ toString index
  propertyId := "P-" ++ group ++ toString index
  periodId := "T-" ++ toString (index % 2)
  regimeId := "R1"
  exposureValue := start + index
  outcomeValue := start + index
  confounderValues := [("phase", "A"), ("size_band", "MID")]
  sourceEntryFingerprints := [sampleSource]
  observationFingerprint := ""

/-- The observations of a group. -/
def sampleRows (group : String) (start count : Nat) : List (PatternObservation ℚ) :=
  (List.range count).map fun index =>
    fingerprinted (sampleObservation group start index)

/-- The observations of three groups. -/
def allRows : List (PatternObservation ℚ) :=
  sampleRows "D" 0 8 ++ sampleRows "V" 20 6 ++ sampleRows "R" 40 6

/-- The thresholds of the registry. -/
def sampleRegistry : PatternRegistry ℚ :=
  patternRegistry (1 / 20) (1 / 5)

/-- A population of some rows. -/
def samplePopulation (populationId role domain : String)
    (rows : List (PatternObservation ℚ)) : PopulationCall ℚ where
  populationId := populationId
  role := role
  domain := domain
  inclusionRule := "frozen:v1"
  observations := rows
  regimeIds := ["R1"]
  confounderManifest := ["phase", "size_band"]

example : allRows.map PatternObservation.observationId =
    ["D0", "D1", "D2", "D3", "D4", "D5", "D6", "D7", "V0", "V1", "V2", "V3",
      "V4", "V5", "R0", "R1", "R2", "R3", "R4", "R5"] := by
  decide +kernel

/-! ## Populations and estimates that are made -/

/-- What `build_pattern_population` asks of its arguments. -/
structure PopulationCall.Acceptable
    (registry : PatternRegistry F) (call : PopulationCall F) : Prop where
  role : call.role ∈ ["DISCOVERY", "VALIDATION", "REPLICATION"]
  domain : call.domain ∈ registry.domains
  inclusionRule : Text.isBlank call.inclusionRule = false
  manifest : ¬ (call.confounderManifest = [] ∧ registry.requireConfounderManifest = true)
  distinct : (call.rows.map PatternObservation.observationId).Nodup

theorem exists_buildPatternPopulation {call : PopulationCall F}
    (acceptable : call.Acceptable registry) :
    ∃ fingerprint, buildPatternPopulation registry call =
      .ok { call.draftPopulation with
        populationFingerprint := fingerprint } := by
  obtain ⟨fingerprint, hashed⟩ := PyValue.exists_sha256_iff.mpr
    (by simp [PatternPopulation.payload] : (call.draftPopulation.payload : PyValue F).Writable)
  refine ⟨fingerprint, ?_⟩
  simp only [buildPatternPopulation, bind_eq_ok, require_eq_ok, exists_const, pure_eq_ok]
  exact ⟨acceptable.role, acceptable.domain, acceptable.inclusionRule,
    acceptable.manifest, acceptable.distinct, fingerprint, hashed, rfl⟩

theorem writable_count {count : Nat} (small : count < 10) :
    (PyValue.int count : PyValue F).Writable := by
  apply PyValue.writable_int
  have digits : ∀ count < 10, Decimal.numDigits count ≤ Json.maxStrDigits := by decide
  exact digits count small

/-- An estimate whose counts have one digit. -/
def PatternEstimate.Small (estimate : PatternEstimate F) : Prop :=
  estimate.n < 10 ∧ estimate.distinctPeriods < 10

theorem PatternEstimate.Small.writable_payload
    {estimate : PatternEstimate F} (small : estimate.Small) :
    (PyValue.dict estimate.payload).Writable := by
  simp [payload, writable_count small.1, writable_count small.2]

theorem PatternEstimate.Small.writable_asdict
    {estimate : PatternEstimate F} (small : estimate.Small) :
    estimate.asdict.Writable := by
  simp [asdict, payload, writable_count small.1, writable_count small.2]

/-- The estimate of a population of observed rows. -/
theorem exists_estimatePattern {observations rows : List (PatternObservation F)} {effect : F}
    (ids : population.observationIds = rows.map PatternObservation.observationId)
    (distinct : (observations.map PatternObservation.observationId).Nodup)
    (listed : rows ⊆ observations) (nonempty : rows ≠ []) (sloped : slope rows = .ok effect)
    (small : (draftEstimate registry population rows effect).Small) :
    ∃ fingerprint, estimatePattern registry observations population =
      .ok { draftEstimate registry population rows effect with
        estimateFingerprint := fingerprint } := by
  have found : population.observationIds.mapM (fun observationId =>
      orRaise (latest PatternObservation.observationId observations
        observationId) "KeyError") = .ok rows := by
    rw [ids, mapM_eq_ok, List.forall₂_map_left_iff, List.forall₂_same]
    intro row present
    exact orRaise_eq_ok.mpr ((latest_eq_some_iff distinct).mpr ⟨listed present, rfl⟩)
  obtain ⟨fingerprint, hashed⟩ := PyValue.exists_sha256_iff.mpr small.writable_payload
  refine ⟨fingerprint, ?_⟩
  simp only [estimatePattern, bind_eq_ok, require_eq_ok, exists_const, pure_eq_ok]
  exact ⟨rows, found, nonempty, effect, sloped, fingerprint, hashed, rfl⟩

theorem exists_makeCandidate {given : GovernedPatternCandidate F}
    (discovery : given.discoveryEstimate.Small)
    (validation : ∀ estimate ∈ given.validationEstimate, estimate.Small)
    (replication : ∀ estimate ∈ given.replicationEstimate, estimate.Small) :
    ∃ fingerprint, makeCandidate given =
      .ok { given with candidateFingerprint := fingerprint } := by
  have optional : ∀ found : Option (PatternEstimate F),
      (∀ estimate ∈ found, estimate.Small) → (optionalEstimate found).Writable := by
    intro found small
    cases found with
    | none => exact PyValue.writable_none
    | some estimate => exact (small estimate rfl).writable_asdict
  obtain ⟨fingerprint, hashed⟩ := PyValue.exists_sha256_iff.mpr
    (by simp [GovernedPatternCandidate.payload, discovery.writable_asdict,
      optional _ validation, optional _ replication] :
      given.payload.Writable)
  exact ⟨fingerprint, makeCandidate_eq_ok.mpr ⟨fingerprint, hashed, rfl⟩⟩

/-! ## Runs on the three groups -/

/-- The rows are made by `make_pattern_observation`. -/
theorem made_of_mem_allRows :
    ∀ row ∈ allRows, ∃ given, makePatternObservation given = .ok row := by
  have named : ∀ row ∈ allRows, ∀ text ∈ [row.observationId,
      row.propertyId, row.periodId, row.regimeId], Text.isBlank text = false := by
    decide +kernel
  have lineage : sortedSet [sampleSource] = [sampleSource] := rfl
  have sampled : ∀ row ∈ allRows, ∃ group start index,
      row = fingerprinted (sampleObservation group start index) := by
    intro row listed
    rcases List.mem_append.mp listed with former | third
    · rcases List.mem_append.mp former with first | second
      · obtain ⟨index, _, rfl⟩ := List.mem_map.mp first
        exact ⟨_, _, index, rfl⟩
      · obtain ⟨index, _, rfl⟩ := List.mem_map.mp second
        exact ⟨_, _, index, rfl⟩
    · obtain ⟨index, _, rfl⟩ := List.mem_map.mp third
      exact ⟨_, _, index, rfl⟩
  intro row listed
  obtain ⟨group, start, index, rfl⟩ := sampled row listed
  obtain ⟨fingerprint, hashed⟩ := PyValue.exists_sha256_iff.mpr (by
      simp only [PatternObservation.payload, PyValue.writable_dict,
        List.forall_mem_cons, PyValue.writable_str, PyValue.writable_float,
        PyValue.writable_texts, PyValue.writable_tuple, true_and]
      refine ⟨?_, fun _ absent => absurd absent List.not_mem_nil⟩
      intro item present
      obtain ⟨_, _, rfl⟩ := List.mem_map.mp present
      exact PyValue.writable_texts _ :
      (sampleObservation group start index).tidied.payload.Writable)
  refine ⟨sampleObservation group start index, ?_⟩
  simp only [makePatternObservation, bind_eq_ok, require_eq_ok, exists_const, pure_eq_ok]
  refine ⟨named (fingerprinted (sampleObservation group start index)) listed,
    ?_, [()], ?_, fingerprint, hashed, ?_⟩
  · change sortedSet [sampleSource] ≠ []
    rw [lineage]
    exact List.cons_ne_nil _ _
  · change (sortedSet [sampleSource]).mapM _ = _
    rw [lineage]
    decide
  · rw [fingerprinted, hashed]
    rfl

/-- The estimate of rows of slope one is positive. -/
theorem direction_draftEstimate
    (population : PatternPopulation) (rows : List (PatternObservation ℚ)) :
    (draftEstimate sampleRegistry population rows 1).effectDirection = .positive := by
  have large : PyFloat.lt (PyFloat.round (PyFloat.abs (1 : ℚ)) 12)
      sampleRegistry.minimumEffectMagnitude = false := by
    decide +kernel
  have positive : PyFloat.lt PyFloat.zero (1 : ℚ) = true := by
    decide +kernel
  simp only [draftEstimate, large, positive, Bool.false_eq_true, if_false, if_true]

/-- Rows of slope one, enough of them and of two periods. -/
structure SampleGroup (rows : List (PatternObservation ℚ)) : Prop where
  listed : rows ⊆ allRows
  sloped : slope rows = .ok 1
  count : 6 ≤ rows.length ∧ rows.length < 10
  periods : (rows.map PatternObservation.periodId).dedup.length = 2

theorem sampleGroup_validation : SampleGroup (sampleRows "V" 20 6) where
  listed := fun _ listed => List.mem_append_left _ (List.mem_append_right _ listed)
  sloped := by decide +kernel
  count := by decide
  periods := by decide +kernel

theorem sampleGroup_replication : SampleGroup (sampleRows "R" 40 6) where
  listed := fun _ listed => List.mem_append_right _ listed
  sloped := by decide +kernel
  count := by decide
  periods := by decide +kernel

theorem sampleGroup_discovery : SampleGroup (sampleRows "D" 0 8) where
  listed := fun _ listed => List.mem_append_left _ (List.mem_append_left _ listed)
  sloped := by decide +kernel
  count := by decide
  periods := by decide +kernel

/-- The estimate of a population of a group. -/
theorem SampleGroup.exists_estimate
    {rows : List (PatternObservation ℚ)} (group : SampleGroup rows)
    (ids : population.observationIds = rows.map PatternObservation.observationId) :
    ∃ estimate, estimatePattern sampleRegistry allRows population =
        .ok estimate ∧
      estimate.n = rows.length ∧
      estimate.distinctPeriods = 2 ∧
      estimate.effectDirection = .positive ∧
      estimate.effectMagnitude = PyFloat.round (PyFloat.abs (1 : ℚ)) 12 := by
  have distinct :
      (allRows.map PatternObservation.observationId).Nodup := by
    decide +kernel
  have nonempty : rows ≠ [] := List.ne_nil_of_length_pos (by have := group.count.1; omega)
  have small : (draftEstimate sampleRegistry population rows 1).Small :=
    ⟨group.count.2, group.periods.trans_lt (by decide)⟩
  obtain ⟨fingerprint, estimated⟩ := exists_estimatePattern ids distinct
    group.listed nonempty group.sloped small
  exact ⟨_, estimated, rfl, group.periods, direction_draftEstimate population rows, rfl⟩

/-- The discovery population of the first group. -/
def discoveryCall (population : PatternPopulation) (ledger : TemporalLedger) :
    DiscoveryCall ℚ where
  patternId := "PAT-1"
  domain := "BUYER_DEPTH"
  statement := "Historical association test"
  discoveryPopulation := population
  observations := allRows
  ledger := ledger
  limitations := []

/-- A candidate that a discovery leaves to be validated. -/
structure SampleCandidate (candidate : GovernedPatternCandidate ℚ) : Prop where
  state : candidate.state = .validationRequired
  direction : candidate.discoveryEstimate.effectDirection = .positive
  small : candidate.discoveryEstimate.Small

theorem exists_sampleCandidate {ledger : TemporalLedger}
    (ids : population.observationIds = (sampleRows "D" 0 8).map PatternObservation.observationId)
    (role : population.role = "DISCOVERY") (domain : population.domain = "BUYER_DEPTH")
    (replays : validateLedgerReplay ledger = .ok true) :
    ∃ candidate, discoverPattern sampleRegistry
        (discoveryCall population ledger) = .ok candidate ∧
      SampleCandidate candidate ∧
      candidate.domain = "BUYER_DEPTH" ∧
      candidate.discoveryPopulationId = population.populationId := by
  obtain ⟨estimate, estimated, count, periods, direction, _⟩ :=
    sampleGroup_discovery.exists_estimate ids
  have small : estimate.Small := by
    refine ⟨?_, ?_⟩
    · rw [count]
      decide
    · rw [periods]
      decide
  have reasons : discoveryReasons sampleRegistry estimate = [] := by
    rw [discoveryReasons, count, periods]
    decide
  have state : (discoveryOutcome sampleRegistry estimate).1 =
      .validationRequired := by
    rw [discoveryOutcome, direction, reasons]
    rfl
  obtain ⟨fingerprint, made⟩ := @exists_makeCandidate ℚ _
    ((discoveryCall population ledger).draftCandidate sampleRegistry
      estimate) small (by simp [DiscoveryCall.draftCandidate])
      (by simp [DiscoveryCall.draftCandidate])
  exact ⟨_, discoverPattern_eq_ok.mpr ⟨⟨replays, role, domain⟩, estimate, estimated, made⟩,
    ⟨state, direction, small⟩, rfl, rfl⟩

/-- Two groups of slope one replicate the candidate. -/
theorem exists_sampleReplication {call : ReplicationCall ℚ}
    {validationRows replicationRows : List (PatternObservation ℚ)}
    (candidate : SampleCandidate call.candidate) (acceptable : call.Acceptable)
    (observations : call.observations = allRows) (validation : SampleGroup validationRows)
    (replication : SampleGroup replicationRows)
    (validationIds : call.validationPopulation.observationIds =
      validationRows.map PatternObservation.observationId)
    (replicationIds : call.replicationPopulation.observationIds =
      replicationRows.map PatternObservation.observationId) :
    ∃ result, validateAndReplicatePattern sampleRegistry call =
        .ok result ∧ result.state = .replicated ∧
      (validateLedgerReplay call.ledger = .ok true →
        ∃ promoted, promotePattern call.ledger result = .ok promoted) := by
  obtain ⟨first, firstEstimated, firstCount, firstPeriods, firstDirection,
    firstMagnitude⟩ := validation.exists_estimate validationIds
  obtain ⟨second, secondEstimated, secondCount, secondPeriods,
    secondDirection, secondMagnitude⟩ := replication.exists_estimate replicationIds
  have firstSmall : first.Small := by
    rw [PatternEstimate.Small, firstCount, firstPeriods]
    exact ⟨validation.count.2, by decide⟩
  have secondSmall : second.Small := by
    rw [PatternEstimate.Small, secondCount, secondPeriods]
    exact ⟨replication.count.2, by decide⟩
  have confirms : call.Confirms sampleRegistry first second :=
    { validationN := by
        rw [firstCount]
        change (6 : Int) ≤ _
        have enough := validation.count.1
        omega
      replicationN := by
        rw [secondCount]
        change (6 : Int) ≤ _
        have enough := replication.count.1
        omega
      validationPeriods := by
        rw [firstPeriods]
        decide
      replicationPeriods := by
        rw [secondPeriods]
        decide
      direction := fun _ => by
        rw [firstDirection, secondDirection, candidate.direction]
        exact ⟨rfl, rfl⟩
      drift := by
        rw [firstMagnitude, secondMagnitude]
        decide +kernel
      effect := by
        rw [firstDirection, secondDirection, candidate.direction]
        decide }
  have reasons := ReplicationCall.reasons_eq_nil_iff.mpr confirms
  have state : (call.draftCandidate sampleRegistry first second).state =
      .replicated := if_neg (not_not.mpr reasons)
  have promotion : (call.draftCandidate sampleRegistry first
      second).promotionState = .eligible := if_neg (not_not.mpr reasons)
  obtain ⟨fingerprint, made⟩ := @exists_makeCandidate ℚ _
    (call.draftCandidate sampleRegistry first second) candidate.small
    (by simpa [ReplicationCall.draftCandidate] using firstSmall)
    (by simpa [ReplicationCall.draftCandidate] using secondSmall)
  refine ⟨_, validateAndReplicatePattern_eq_ok.mpr ⟨acceptable, first,
    second, observations ▸ firstEstimated, observations ▸ secondEstimated, made⟩, state, ?_⟩
  intro replays
  obtain ⟨promotedFingerprint, remade⟩ := @exists_makeCandidate ℚ _
    { call.draftCandidate sampleRegistry first second with
      state := .promoted
      promotionState := .promoted
      candidateFingerprint := fingerprint } candidate.small
    (by simpa [ReplicationCall.draftCandidate] using firstSmall)
    (by simpa [ReplicationCall.draftCandidate] using secondSmall)
  exact ⟨_, promotePattern_eq_ok.mpr ⟨⟨⟨state, promotion⟩, rfl, replays⟩, remade⟩⟩

/-- A population that is built of a group, up to its fingerprint. -/
theorem exists_samplePopulation
    {call : PopulationCall ℚ} (acceptable : call.Acceptable sampleRegistry)
    {rows : List (PatternObservation ℚ)}
    (ids : call.rows.map PatternObservation.observationId =
      rows.map PatternObservation.observationId) :
    ∃ population, buildPatternPopulation sampleRegistry call = .ok population ∧
      population.observationIds = rows.map PatternObservation.observationId ∧
      population.role = call.role ∧
      population.domain = call.domain ∧
      population.populationId = call.populationId ∧
      population.sourceEntryFingerprints = sortedSet
        (call.rows.flatMap PatternObservation.sourceEntryFingerprints) := by
  obtain ⟨fingerprint, built⟩ := exists_buildPatternPopulation acceptable
  exact ⟨_, built, ids, rfl, rfl, rfl, rfl⟩

/-- An empty ledger of a community. -/
theorem exists_sampleLedger {communityId : String} (named : Text.isBlank communityId = false) :
    ∃ ledger, buildTemporalLedger "L-1" communityId [] = .ok ledger ∧
      ledger.communityId = communityId ∧ validateLedgerReplay ledger = .ok true := by
  obtain ⟨ledger, built⟩ := @History.exists_buildTemporalLedger "L-1"
    communityId [] ⟨by decide, named⟩ (by simp) (by simp) (by simp)
  obtain ⟨wellBuilt, _, community, _⟩ := buildTemporalLedger_eq_ok.mp built
  exact ⟨ledger, built, community, wellBuilt.replays⟩

/-- A run from the populations to the promoted pattern. -/
theorem exists_sampleRun :
    ∃ discoveryPopulation validationPopulation replicationPopulation ledger
        candidate result promoted,
      buildPatternPopulation sampleRegistry (samplePopulation "PD"
        "DISCOVERY" "BUYER_DEPTH" (sampleRows "D" 0 8)) = .ok discoveryPopulation ∧
      buildPatternPopulation sampleRegistry (samplePopulation "PV"
        "VALIDATION" "BUYER_DEPTH" (sampleRows "V" 20 6)) = .ok validationPopulation ∧
      buildPatternPopulation sampleRegistry (samplePopulation "PR"
        "REPLICATION" "BUYER_DEPTH" (sampleRows "R" 40 6)) = .ok replicationPopulation ∧
      discoverPattern sampleRegistry (discoveryCall discoveryPopulation ledger) = .ok candidate ∧
      validateAndReplicatePattern sampleRegistry ⟨candidate,
        discoveryPopulation, validationPopulation, replicationPopulation,
        allRows, ledger⟩ = .ok result ∧
      result.state = .replicated ∧
      promotePattern ledger result = .ok promoted := by
  obtain ⟨discoveryPopulation, discoveryBuilt, discoveryIds, discoveryRole,
    discoveryDomain, _, _⟩ := @exists_samplePopulation
      (samplePopulation "PD" "DISCOVERY" "BUYER_DEPTH" (sampleRows "D" 0 8))
      ⟨by decide, by decide, by decide, by decide, by decide +kernel⟩
      (sampleRows "D" 0 8) (by decide +kernel)
  obtain ⟨validationPopulation, validationBuilt, validationIds,
    validationRole, _⟩ := @exists_samplePopulation
      (samplePopulation "PV" "VALIDATION" "BUYER_DEPTH" (sampleRows "V" 20 6))
      ⟨by decide, by decide, by decide, by decide, by decide +kernel⟩
      (sampleRows "V" 20 6) (by decide +kernel)
  obtain ⟨replicationPopulation, replicationBuilt, replicationIds,
    replicationRole, _⟩ := @exists_samplePopulation
      (samplePopulation "PR" "REPLICATION" "BUYER_DEPTH" (sampleRows "R" 40 6))
      ⟨by decide, by decide, by decide, by decide, by decide +kernel⟩
      (sampleRows "R" 40 6) (by decide +kernel)
  obtain ⟨ledger, _, _, replays⟩ := @exists_sampleLedger "SAN-TAN-HEIGHTS" (by decide)
  obtain ⟨candidate, discovered, waiting, _⟩ := exists_sampleCandidate
    discoveryIds discoveryRole discoveryDomain replays
  obtain ⟨result, validated, replicated, promotes⟩ :=
    @exists_sampleReplication ⟨candidate, discoveryPopulation,
      validationPopulation, replicationPopulation, allRows, ledger⟩ _ _
      waiting
      { eligible := waiting.state
        validationRole := validationRole
        replicationRole := replicationRole
        discoveryValidation := by
          rw [discoveryIds, validationIds, List.disjoint_left]
          decide +kernel
        discoveryReplication := by
          rw [discoveryIds, replicationIds, List.disjoint_left]
          decide +kernel
        validationReplication := by
          rw [validationIds, replicationIds, List.disjoint_left]
          decide +kernel }
      rfl sampleGroup_validation sampleGroup_replication validationIds
      replicationIds
  obtain ⟨promoted, promotion⟩ := promotes replays
  exact ⟨discoveryPopulation, validationPopulation, replicationPopulation,
    ledger, candidate, result, promoted, discoveryBuilt, validationBuilt,
    replicationBuilt, discovered, validated, replicated, promotion⟩

theorem replicated_on_unseen_observations_sample :
    ∃ discoveryPopulation validationPopulation replicationPopulation ledger
        candidate result promoted,
      buildPatternPopulation sampleRegistry (samplePopulation "PD"
        "DISCOVERY" "BUYER_DEPTH" (sampleRows "D" 0 8)) =
          .ok discoveryPopulation ∧
      buildPatternPopulation sampleRegistry (samplePopulation "PV"
        "VALIDATION" "BUYER_DEPTH" (sampleRows "V" 20 6)) =
          .ok validationPopulation ∧
      buildPatternPopulation sampleRegistry (samplePopulation "PR"
        "REPLICATION" "BUYER_DEPTH" (sampleRows "R" 40 6)) =
          .ok replicationPopulation ∧
      discoverPattern sampleRegistry
        (discoveryCall discoveryPopulation ledger) = .ok candidate ∧
      validateAndReplicatePattern sampleRegistry ⟨candidate,
        discoveryPopulation, validationPopulation, replicationPopulation,
        allRows, ledger⟩ = .ok result ∧
      promotePattern ledger result = .ok promoted ∧
      discoveryPopulation.observationIds.Disjoint
        (validationPopulation.observationIds ++
          replicationPopulation.observationIds) ∧
      PromotedFrom ledger ⟨candidate, discoveryPopulation,
        validationPopulation, replicationPopulation, allRows, ledger⟩
          result promoted := by
  obtain ⟨discoveryPopulation, validationPopulation, replicationPopulation,
    ledger, candidate, result, promoted, discoveryBuilt, validationBuilt,
    replicationBuilt, discovered, validated, replicated, promotion⟩ :=
      exists_sampleRun
  obtain ⟨unseen, _, _, _, _, _, promotedFrom⟩ :=
    replicated_on_unseen_observations discovered rfl validated replicated
  exact ⟨discoveryPopulation, validationPopulation, replicationPopulation,
    ledger, candidate, result, promoted, discoveryBuilt, validationBuilt,
    replicationBuilt, discovered, validated, promotion, unseen,
    promotedFrom ledger promoted promotion⟩

/-- Replication against the population of the discovery leaves open whose
ledger entries, which domain and which ledger the tests are of; another
discovery population admits the data of the discovery themselves. -/
theorem tested_on_seen_data :
    ∃ discoveryPopulation validationPopulation replicationPopulation
        seenPopulation decoyPopulation ledger elsewhere candidate tested
        seen promoted,
      (∀ row ∈ allRows, ∃ given, makePatternObservation given = .ok row) ∧
      buildPatternPopulation sampleRegistry (samplePopulation "PD"
        "DISCOVERY" "BUYER_DEPTH" (sampleRows "D" 0 8)) =
          .ok discoveryPopulation ∧
      buildPatternPopulation sampleRegistry (samplePopulation "PV"
        "VALIDATION" "SCARCITY" (sampleRows "V" 20 6)) =
          .ok validationPopulation ∧
      buildPatternPopulation sampleRegistry (samplePopulation "PR"
        "REPLICATION" "BUYER_DEPTH" (sampleRows "R" 40 6)) =
          .ok replicationPopulation ∧
      buildPatternPopulation sampleRegistry (samplePopulation "PV"
        "VALIDATION" "BUYER_DEPTH" (sampleRows "D" 0 8)) = .ok seenPopulation ∧
      buildPatternPopulation sampleRegistry (samplePopulation "PD"
        "DISCOVERY" "BUYER_DEPTH" (sampleRows "X" 60 8)) = .ok decoyPopulation ∧
      discoverPattern sampleRegistry
        (discoveryCall discoveryPopulation ledger) = .ok candidate ∧
      (validateAndReplicatePattern sampleRegistry ⟨candidate,
          discoveryPopulation, validationPopulation, replicationPopulation,
          allRows, elsewhere⟩ = .ok tested ∧
        tested.state = .replicated ∧
        sampleSource ∈ discoveryPopulation.sourceEntryFingerprints ∧
        sampleSource ∈ validationPopulation.sourceEntryFingerprints ∧
        validationPopulation.domain ≠ candidate.domain ∧
        elsewhere.communityId ≠ ledger.communityId) ∧
      (validateAndReplicatePattern sampleRegistry ⟨candidate,
          decoyPopulation, seenPopulation, replicationPopulation, allRows,
          ledger⟩ = .ok seen ∧
        seen.state = .replicated ∧
        promotePattern ledger seen = .ok promoted ∧
        seen.discoveryPopulationId = candidate.discoveryPopulationId ∧
        seenPopulation.observationIds = discoveryPopulation.observationIds) ∧
      ¬ TestedOnUnseenData (discoveryCall discoveryPopulation ledger)
        ⟨candidate, discoveryPopulation, validationPopulation,
          replicationPopulation, allRows, elsewhere⟩ ∧
      ¬ TestedOnUnseenData (discoveryCall discoveryPopulation ledger)
        ⟨candidate, decoyPopulation, seenPopulation, replicationPopulation,
          allRows, ledger⟩ := by
  obtain ⟨discoveryPopulation, discoveryBuilt, discoveryIds, discoveryRole,
    discoveryDomain, discoveryId, discoverySources⟩ :=
      @exists_samplePopulation (samplePopulation "PD" "DISCOVERY" "BUYER_DEPTH"
          (sampleRows "D" 0 8))
        ⟨by decide, by decide, by decide, by decide, by decide +kernel⟩
        (sampleRows "D" 0 8) (by decide +kernel)
  obtain ⟨validationPopulation, validationBuilt, validationIds,
    validationRole, validationDomain, _, validationSources⟩ :=
      @exists_samplePopulation (samplePopulation "PV" "VALIDATION" "SCARCITY"
          (sampleRows "V" 20 6))
        ⟨by decide, by decide, by decide, by decide, by decide +kernel⟩
        (sampleRows "V" 20 6) (by decide +kernel)
  obtain ⟨replicationPopulation, replicationBuilt, replicationIds,
    replicationRole, _⟩ := @exists_samplePopulation
      (samplePopulation "PR" "REPLICATION" "BUYER_DEPTH" (sampleRows "R" 40 6))
      ⟨by decide, by decide, by decide, by decide, by decide +kernel⟩
      (sampleRows "R" 40 6) (by decide +kernel)
  obtain ⟨seenPopulation, seenBuilt, seenIds, seenRole, _⟩ :=
    @exists_samplePopulation (samplePopulation "PV" "VALIDATION" "BUYER_DEPTH"
        (sampleRows "D" 0 8))
      ⟨by decide, by decide, by decide, by decide, by decide +kernel⟩
      (sampleRows "D" 0 8) (by decide +kernel)
  obtain ⟨decoyPopulation, decoyBuilt, decoyIds, _, _, decoyId, _⟩ :=
    @exists_samplePopulation (samplePopulation "PD" "DISCOVERY" "BUYER_DEPTH"
        (sampleRows "X" 60 8))
      ⟨by decide, by decide, by decide, by decide, by decide +kernel⟩
      (sampleRows "X" 60 8) (by decide +kernel)
  obtain ⟨ledger, _, community, replays⟩ :=
    @exists_sampleLedger "SAN-TAN-HEIGHTS" (by decide)
  obtain ⟨elsewhere, _, otherCommunity, _⟩ :=
    @exists_sampleLedger "ELSEWHERE" (by decide)
  obtain ⟨candidate, discovered, waiting, candidateDomain, candidateId⟩ :=
    exists_sampleCandidate discoveryIds discoveryRole discoveryDomain replays
  obtain ⟨tested, validated, replicated, _⟩ :=
    @exists_sampleReplication ⟨candidate, discoveryPopulation,
      validationPopulation, replicationPopulation, allRows, elsewhere⟩ _ _
      waiting
      { eligible := waiting.state
        validationRole := validationRole
        replicationRole := replicationRole
        discoveryValidation := by
          rw [discoveryIds, validationIds, List.disjoint_left]
          decide +kernel
        discoveryReplication := by
          rw [discoveryIds, replicationIds, List.disjoint_left]
          decide +kernel
        validationReplication := by
          rw [validationIds, replicationIds, List.disjoint_left]
          decide +kernel }
      rfl sampleGroup_validation sampleGroup_replication validationIds
      replicationIds
  obtain ⟨seen, seenValidated, seenReplicated, promotes⟩ :=
    @exists_sampleReplication ⟨candidate, decoyPopulation, seenPopulation,
      replicationPopulation, allRows, ledger⟩ _ _ waiting
      { eligible := waiting.state
        validationRole := seenRole
        replicationRole := replicationRole
        discoveryValidation := by
          rw [decoyIds, seenIds, List.disjoint_left]
          decide +kernel
        discoveryReplication := by
          rw [decoyIds, replicationIds, List.disjoint_left]
          decide +kernel
        validationReplication := by
          rw [seenIds, replicationIds, List.disjoint_left]
          decide +kernel }
      rfl sampleGroup_discovery sampleGroup_replication seenIds
      replicationIds
  obtain ⟨promoted, promotion⟩ := promotes replays
  have seenId : seen.discoveryPopulationId =
      candidate.discoveryPopulationId := by
    obtain ⟨_, _, _, _, _, remade⟩ :=
      validateAndReplicatePattern_eq_ok.mp seenValidated
    obtain ⟨_, _, rfl⟩ := makeCandidate_eq_ok.mp remade
    rw [candidateId, discoveryId]
    exact decoyId
  have otherDomain : validationPopulation.domain ≠ candidate.domain := by
    rw [validationDomain, candidateDomain]
    decide
  refine ⟨discoveryPopulation, validationPopulation, replicationPopulation,
    seenPopulation, decoyPopulation, ledger, elsewhere, candidate, tested,
    seen, promoted, made_of_mem_allRows, discoveryBuilt, validationBuilt,
    replicationBuilt, seenBuilt, decoyBuilt, discovered,
    ⟨validated, replicated, ?_, ?_, otherDomain, ?_⟩,
    ⟨seenValidated, seenReplicated, promotion, seenId, ?_⟩, ?_, ?_⟩
  · rw [discoverySources]
    decide +kernel
  · rw [validationSources]
    decide +kernel
  · rw [community, otherCommunity]
    decide
  · rw [seenIds, discoveryIds]
  · intro unseen
    exact otherDomain (candidateDomain ▸ unseen.domain.1)
  · intro unseen
    obtain ⟨apart, _⟩ := List.disjoint_append_right.mp unseen.observations.1
    change discoveryPopulation.observationIds.Disjoint
      seenPopulation.observationIds at apart
    rw [discoveryIds, seenIds] at apart
    have listed : "D0" ∈ (sampleRows "D" 0 8).map
        PatternObservation.observationId := by
      decide +kernel
    exact apart listed listed

end SanTanHeights.Community.Patterns
