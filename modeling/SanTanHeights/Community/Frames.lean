import SanTanHeights.Community.Replication

/-!
# What a step leaves of a pattern

Validation keeps what it does not decide where it is given the population and
the ledger of the discovery.  Promotion goes through `asdict`, which makes
dictionaries of the estimates.
-/

namespace SanTanHeights.Community.Patterns

open Foundation.Outcome Shared
open History (TemporalLedger sortedSet validateLedgerReplay mem_sortedSet)

variable {F : Type} [PyFloat F]

/-! ## Candidates as objects -/

/-- What a field of an estimate can hold. -/
inductive EstimateValue (F : Type) where
  | estimate (value : PatternEstimate F)
  | dict (value : PyValue F)

/-- What `asdict` makes of it. -/
def EstimateValue.asdict : EstimateValue F → PyValue F
  | .estimate value => value.asdict
  | .dict value => value

/-- A `GovernedPatternCandidate`, with what its fields hold. -/
structure PatternObject (F : Type) where
  patternId : String
  domain : String
  statement : String
  discoveryPopulationId : String
  validationPopulationId : Option String
  replicationPopulationId : Option String
  discoveryEstimate : EstimateValue F
  validationEstimate : Option (EstimateValue F)
  replicationEstimate : Option (EstimateValue F)
  state : PatternState
  promotionState : PromotionState
  reasonCodes : List String
  limitations : List String
  sourceLedgerFingerprint : String
  candidateFingerprint : String

/-- A candidate with estimates in its fields. -/
def GovernedPatternCandidate.object
    (candidate : GovernedPatternCandidate F) : PatternObject F where
  patternId := candidate.patternId
  domain := candidate.domain
  statement := candidate.statement
  discoveryPopulationId := candidate.discoveryPopulationId
  validationPopulationId := candidate.validationPopulationId
  replicationPopulationId := candidate.replicationPopulationId
  discoveryEstimate := .estimate candidate.discoveryEstimate
  validationEstimate := candidate.validationEstimate.map .estimate
  replicationEstimate := candidate.replicationEstimate.map .estimate
  state := candidate.state
  promotionState := candidate.promotionState
  reasonCodes := candidate.reasonCodes
  limitations := candidate.limitations
  sourceLedgerFingerprint := candidate.sourceLedgerFingerprint
  candidateFingerprint := candidate.candidateFingerprint

namespace PatternObject

/-- What `asdict` makes of a field that may be missing. -/
def optionalDict : Option (EstimateValue F) → PyValue F
  | none => .none
  | some value => value.asdict

/-- `asdict(candidate)`, its fingerprint apart. -/
def payload (candidate : PatternObject F) : PyValue F :=
  .dict [("pattern_id", .str candidate.patternId), ("domain", .str candidate.domain),
      ("statement", .str candidate.statement),
      ("discovery_population_id", .str candidate.discoveryPopulationId),
      ("validation_population_id", .ofOptional candidate.validationPopulationId),
      ("replication_population_id", .ofOptional candidate.replicationPopulationId),
      ("discovery_estimate", candidate.discoveryEstimate.asdict),
      ("validation_estimate", optionalDict candidate.validationEstimate),
      ("replication_estimate", optionalDict candidate.replicationEstimate),
      ("state", .str candidate.state.code),
      ("promotion_state", .str candidate.promotionState.code),
      ("reason_codes", .texts candidate.reasonCodes),
      ("limitations", .texts candidate.limitations),
      ("source_ledger_fingerprint", .str candidate.sourceLedgerFingerprint)]

/-- `validate_candidate_replay`. -/
def validateReplay (candidate : PatternObject F) : Except String Bool := do
  let fingerprint ← candidate.payload.sha256
  return decide (fingerprint = candidate.candidateFingerprint)

/-- The object that `GovernedPatternCandidate(**payload, ...)` makes of
`asdict(candidate)` with other states. -/
def rebuilt (candidate : PatternObject F) (state : PatternState)
    (promotionState : PromotionState) : PatternObject F :=
  { candidate with
    discoveryEstimate := .dict candidate.discoveryEstimate.asdict
    validationEstimate := candidate.validationEstimate.map fun value => .dict value.asdict
    replicationEstimate := candidate.replicationEstimate.map fun value => .dict value.asdict
    state := state
    promotionState := promotionState }

/-- `promote_pattern`. -/
def promote (ledger : TemporalLedger) (candidate : PatternObject F) :
    Except String (PatternObject F) := do
  require (candidate.state = .replicated ∧ candidate.promotionState = .eligible)
    "pattern is not eligible for promotion"
  require (candidate.sourceLedgerFingerprint = ledger.ledgerFingerprint)
    "temporal lineage mismatch"
  let replays ← validateLedgerReplay ledger
  require (replays = true) "temporal lineage mismatch"
  let promoted := candidate.rebuilt .promoted .promoted
  let fingerprint ← promoted.payload.sha256
  return { promoted with candidateFingerprint := fingerprint }

end PatternObject

/-! ## Objects and candidates -/

omit [PyFloat F] in
theorem optionalDict_map_estimate (found : Option (PatternEstimate F)) :
    PatternObject.optionalDict (found.map EstimateValue.estimate) = optionalEstimate found := by
  cases found <;> rfl

omit [PyFloat F] in
/-- A candidate and its object have one dictionary. -/
theorem payload_object (candidate : GovernedPatternCandidate F) :
    candidate.object.payload = candidate.payload := by
  simp only [PatternObject.payload, GovernedPatternCandidate.payload,
    GovernedPatternCandidate.object, optionalDict_map_estimate]
  rfl

omit [PyFloat F] in
/-- Dictionaries of estimates stay as they are. -/
theorem payload_rebuilt (candidate : PatternObject F) (state : PatternState)
    (promotionState : PromotionState) : (candidate.rebuilt state promotionState).payload =
      { candidate with
        state := state
        promotionState := promotionState : PatternObject F }.payload := by
  have optional : ∀ found : Option (EstimateValue F), PatternObject.optionalDict
          (found.map fun value => .dict value.asdict) =
        PatternObject.optionalDict found := by
    intro found
    cases found <;> rfl
  simp only [PatternObject.payload, PatternObject.rebuilt, optional]
  rfl

variable {ledger : TemporalLedger} {promoted : PatternObject F}

theorem promote_eq_ok {candidate : PatternObject F} :
    candidate.promote ledger = .ok promoted ↔ ((candidate.state = .replicated ∧
        candidate.promotionState = .eligible) ∧
          candidate.sourceLedgerFingerprint = ledger.ledgerFingerprint ∧
            validateLedgerReplay ledger = .ok true) ∧
        ∃ fingerprint, (candidate.rebuilt .promoted .promoted).payload.sha256 =
              .ok fingerprint ∧
            { candidate.rebuilt .promoted .promoted with
              candidateFingerprint := fingerprint } = promoted := by
  simp only [PatternObject.promote, bind_eq_ok, require_eq_ok, exists_const, pure_eq_ok]
  constructor
  · rintro ⟨eligible, lineage, _, replays, rfl, made⟩
    exact ⟨⟨eligible, lineage, replays⟩, made⟩
  · rintro ⟨⟨eligible, lineage, replays⟩, made⟩
    exact ⟨eligible, lineage, true, replays, rfl, made⟩

/-- The promoted object is the promoted candidate with dictionaries for its
estimates. -/
theorem promote_object {candidate : GovernedPatternCandidate F} :
    candidate.object.promote ledger = .ok promoted ↔
      ∃ result, promotePattern ledger candidate = .ok result ∧
        { candidate.object.rebuilt .promoted .promoted with
          candidateFingerprint := result.candidateFingerprint } =
            promoted := by
  have payload : (candidate.object.rebuilt .promoted .promoted).payload =
      { candidate with
        state := .promoted
        promotionState := .promoted : GovernedPatternCandidate F }.payload := by
    rw [payload_rebuilt, ← payload_object]
    rfl
  simp only [promote_eq_ok, promotePattern_eq_ok, makeCandidate_eq_ok, payload]
  constructor
  · rintro ⟨eligible, fingerprint, hashed, rfl⟩
    exact ⟨_, ⟨eligible, fingerprint, hashed, rfl⟩, rfl⟩
  · rintro ⟨_, ⟨eligible, fingerprint, hashed, rfl⟩, rfl⟩
    exact ⟨eligible, fingerprint, hashed, rfl⟩

/-! ## Frames -/

/-- What every step leaves: the fields that it is not about, an estimate that
is still one, and a fingerprint that replays.  Reasons may be added. -/
structure Framed (candidate result : PatternObject F) : Prop where
  patternId : result.patternId = candidate.patternId
  domain : result.domain = candidate.domain
  statement : result.statement = candidate.statement
  discoveryPopulationId : result.discoveryPopulationId = candidate.discoveryPopulationId
  discoveryEstimate : result.discoveryEstimate = candidate.discoveryEstimate
  reasonCodes : candidate.reasonCodes ⊆ result.reasonCodes
  limitations : result.limitations = candidate.limitations
  sourceLedgerFingerprint : result.sourceLedgerFingerprint = candidate.sourceLedgerFingerprint
  replays : result.validateReplay = .ok true

/-- What validation leaves and adds; what is replicated can be promoted. -/
structure ValidationFramed (candidate result : PatternObject F) : Prop where
  framed : Framed candidate result
  evidence : ∃ validation replication,
    result.validationEstimate = some (.estimate validation) ∧
      result.replicationEstimate = some (.estimate replication)
  accepted : result.state = .replicated → ∃ ledger promoted, result.promote ledger = .ok promoted

/-- What promotion leaves. -/
structure PromotionFramed (candidate result : PatternObject F) : Prop where
  framed : Framed candidate result
  validationPopulationId : result.validationPopulationId = candidate.validationPopulationId
  replicationPopulationId : result.replicationPopulationId = candidate.replicationPopulationId
  validationEstimate : result.validationEstimate = candidate.validationEstimate
  replicationEstimate : result.replicationEstimate = candidate.replicationEstimate
  sameReasons : result.reasonCodes = candidate.reasonCodes

/-- A candidate is validated against the population and the ledger that it
was discovered on. -/
def ReplicationCall.SameOrigin (call : ReplicationCall F) : Prop :=
  call.discoveryPopulation.populationId = call.candidate.discoveryPopulationId ∧
    call.ledger.ledgerFingerprint = call.candidate.sourceLedgerFingerprint

/-- A candidate that discovery or validation returned. -/
def Returned (candidate : GovernedPatternCandidate F) : Prop :=
  (∃ registry discovery, discoverPattern registry discovery = .ok candidate) ∨
  ∃ registry call, validateAndReplicatePattern registry call = .ok candidate

theorem validateReplay_of_makeCandidate {given candidate : GovernedPatternCandidate F}
    (made : makeCandidate given = .ok candidate) :
    candidate.object.validateReplay = .ok true := by
  obtain ⟨fingerprint, hashed, rfl⟩ := makeCandidate_eq_ok.mp made
  have same : ({ given with candidateFingerprint := fingerprint } :
      GovernedPatternCandidate F).payload = given.payload := rfl
  rw [PatternObject.validateReplay, payload_object, same, ok_bind hashed]
  change Except.ok (decide (fingerprint = fingerprint)) = _
  rw [decide_eq_true rfl]

/-- Where a candidate was hashed, it can be hashed in another state. -/
theorem exists_sha256_rebuilt {given candidate : GovernedPatternCandidate F}
    (made : makeCandidate given = .ok candidate) (state : PatternState)
    (promotionState : PromotionState) :
    ∃ fingerprint, (candidate.object.rebuilt state
      promotionState).payload.sha256 = .ok fingerprint := by
  obtain ⟨fingerprint, hashed, rfl⟩ := makeCandidate_eq_ok.mp made
  have writable := PyValue.exists_sha256_iff.mp ⟨_, hashed⟩
  rw [PyValue.exists_sha256_iff, payload_rebuilt]
  have written : ({ given with
      state := state
      promotionState := promotionState } :
        GovernedPatternCandidate F).payload.Writable := by
    rw [GovernedPatternCandidate.payload, PyValue.writable_dict] at writable ⊢
    simpa using writable
  rw [← payload_object] at written
  exact written

/-- A candidate that waits for validation was discovered on a ledger that
replays. -/
theorem exists_ledger_of_returned
    {candidate : GovernedPatternCandidate F} (returned : Returned candidate)
    (waiting : candidate.state = .validationRequired) :
    ∃ ledger : TemporalLedger,
      ledger.ledgerFingerprint = candidate.sourceLedgerFingerprint ∧
        validateLedgerReplay ledger = .ok true := by
  rcases returned with ⟨registry, discovery, discovered⟩ |
    ⟨registry, call, validated⟩
  · obtain ⟨acceptable, _, _, made⟩ := discoverPattern_eq_ok.mp discovered
    obtain ⟨_, _, rfl⟩ := makeCandidate_eq_ok.mp made
    exact ⟨discovery.ledger, rfl, acceptable.replays⟩
  · obtain ⟨_, validation, replication, _, _, made⟩ :=
      validateAndReplicatePattern_eq_ok.mp validated
    obtain ⟨_, _, rfl⟩ := makeCandidate_eq_ok.mp made
    change (if call.reasons registry validation replication ≠ [] then
      PatternState.replicationFailed else .replicated) = _ at waiting
    split_ifs at waiting

/-- Validation is a frame just where it is given the origin of the
candidate. -/
theorem validationFramed_iff {registry : PatternRegistry F} {call : ReplicationCall F}
    {result : GovernedPatternCandidate F} (returned : Returned call.candidate)
    (validated : validateAndReplicatePattern registry call = .ok result) :
    ValidationFramed call.candidate.object result.object ↔ call.SameOrigin := by
  obtain ⟨acceptable, validation, replication, _, _, made⟩ :=
    validateAndReplicatePattern_eq_ok.mp validated
  have replays := validateReplay_of_makeCandidate made
  have rehashed := exists_sha256_rebuilt made
  obtain ⟨fingerprint, _, rfl⟩ := makeCandidate_eq_ok.mp made
  constructor
  · intro valid
    exact ⟨valid.framed.discoveryPopulationId, valid.framed.sourceLedgerFingerprint⟩
  · rintro ⟨population, ledger⟩
    refine ⟨?_, ⟨validation, replication, rfl, rfl⟩, ?_⟩
    · exact
        { patternId := rfl
          domain := rfl
          statement := rfl
          discoveryPopulationId := population
          discoveryEstimate := rfl
          reasonCodes := fun code listed =>
            mem_sortedSet.mpr (List.mem_append_left _ listed)
          limitations := rfl
          sourceLedgerFingerprint := ledger
          replays := replays }
    · intro replicated
      obtain ⟨origin, originPrint, originReplays⟩ :=
        exists_ledger_of_returned returned acceptable.eligible
      obtain ⟨rehash, hashed⟩ := rehashed .promoted .promoted
      have unfailed :
          ¬ call.reasons registry validation replication ≠ [] := by
        intro failed
        change (if call.reasons registry validation replication ≠ [] then
          PatternState.replicationFailed else .replicated) = _ at replicated
        rw [if_pos failed] at replicated
        cases replicated
      have eligible : (call.draftCandidate registry validation
          replication).promotionState = .eligible := if_neg unfailed
      exact ⟨origin, _, promote_eq_ok.mpr ⟨⟨⟨replicated, eligible⟩,
        ledger.trans originPrint.symm, originReplays⟩, rehash, hashed, rfl⟩⟩

/-- Promotion leaves no estimate an estimate. -/
theorem not_promotionFramed {candidate : GovernedPatternCandidate F}
    (promotes : candidate.object.promote ledger = .ok promoted) :
    ¬ PromotionFramed candidate.object promoted := by
  intro framed
  obtain ⟨_, _, _, rfl⟩ := promote_eq_ok.mp promotes
  exact nomatch framed.framed.discoveryEstimate

/-- Validation is a frame just where it is given the discovery population and
the ledger of the candidate; promotion never is one. -/
theorem pattern_frames_iff {candidate : GovernedPatternCandidate F}
    (returned : Returned candidate) :
    (∀ registry call result, call.candidate = candidate →
      validateAndReplicatePattern registry call = .ok result →
        (ValidationFramed candidate.object result.object ↔ call.SameOrigin)) ∧
    ∀ ledger promoted, candidate.object.promote ledger = .ok promoted →
      ¬ PromotionFramed candidate.object promoted := by
  refine ⟨?_, fun ledger promoted => not_promotionFramed⟩
  rintro registry call result rfl validated
  exact validationFramed_iff returned validated

/-! ## Samples -/

/-- A validation against its origin is a frame. -/
theorem pattern_frames_iff_sample :
    ∃ registry call result,
      validateAndReplicatePattern (F := ℚ) registry call = .ok result ∧
      ValidationFramed call.candidate.object result.object := by
  obtain ⟨discoveryPopulation, validationPopulation, replicationPopulation,
    ledger, candidate, result, _, _, _, _, discovered, validated, _, _⟩ :=
      exists_sampleRun
  refine ⟨_, _, _, validated, ((pattern_frames_iff
    (.inl ⟨_, _, discovered⟩)).1 _ _ _ rfl validated).mpr ?_⟩
  obtain ⟨_, _, _, made⟩ := discoverPattern_eq_ok.mp discovered
  obtain ⟨_, _, rfl⟩ := makeCandidate_eq_ok.mp made
  exact ⟨rfl, rfl⟩

/-- The promoted object of a replicated candidate holds a dictionary for its
estimate. -/
theorem promoted_estimate_is_dict :
    ∃ registry call ledger,
    ∃ result : GovernedPatternCandidate ℚ,
    ∃ promoted : PatternObject ℚ,
      validateAndReplicatePattern registry call = .ok result ∧
      result.object.promote ledger = .ok promoted ∧
      result.object.discoveryEstimate = .estimate result.discoveryEstimate ∧
      promoted.discoveryEstimate = .dict result.discoveryEstimate.asdict ∧
      ¬ PromotionFramed result.object promoted := by
  obtain ⟨_, _, _, ledger, _, result, promoted, _, _, _, _, validated, _,
    promotion⟩ := exists_sampleRun
  have promotes := promote_object.mpr ⟨promoted, promotion, rfl⟩
  exact ⟨_, _, ledger, result, _, validated, promotes, rfl, rfl,
    not_promotionFramed promotes⟩

end SanTanHeights.Community.Patterns
