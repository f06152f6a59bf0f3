import SanTanHeights.Community.Sealing
import SanTanHeights.Scenario.BuyerSubstitution

/-!
# Evidence without look-ahead

What a scenario includes, and the states that are built from it, depend on the
entries that the scenario may know: those learned by its cutoff that are not
about another property.
-/

namespace SanTanHeights.Scenario

open Foundation Foundation.Json Foundation.Sorting Foundation.Outcome Shared
open Community (FromIsoformat parseTs_eq_ok texts)
open Community.History (TemporalLedger TemporalLedgerEntry
  makeTemporalEntry_eq_ok sortedSet validateFp validateLedgerReplay)

variable {F : Type}

variable {fromisoformat : FromIsoformat} {query : ScenarioEvidenceQuery}
  {entry : TemporalLedgerEntry} {record : ScenarioEvidenceRecord}
  {registry : EvidenceRegistry} {call : EvidenceCall F}
  {evidenceSet otherSet : ScenarioEvidenceSet} {other : TemporalLedger}

/-! ## Records -/

theorem decisionTimes_eq_ok {times : DecisionTimes} :
    decisionTimes fromisoformat query entry = .ok times ↔
      fromisoformat query.validFrom = some (some times.start) ∧
        fromisoformat query.validTo = some (some times.until_) ∧
          fromisoformat query.knowledgeCutoff = some (some times.cutoff) ∧
            fromisoformat entry.validFrom = some (some times.valid) ∧
              fromisoformat entry.knownAt = some (some times.known) := by
  simp only [decisionTimes, bind_eq_ok, parseTs_eq_ok, pure_eq_ok]
  constructor
  · rintro ⟨start, startParsed, until_, untilParsed, cutoff, cutoffParsed,
      valid, validParsed, known, knownParsed, rfl⟩
    exact ⟨startParsed, untilParsed, cutoffParsed, validParsed, knownParsed⟩
  · rintro ⟨startParsed, untilParsed, cutoffParsed, validParsed, knownParsed⟩
    exact ⟨_, startParsed, _, untilParsed, _, cutoffParsed, _, validParsed, _, knownParsed, rfl⟩

theorem makeRecord_eq_ok {decision : EvidenceState × List String} :
    makeRecord entry decision = .ok record ↔ ∃ fingerprint,
        Community.History.hash (.obj (draftRecord entry decision).payload) =
              .ok fingerprint ∧
          { draftRecord entry decision with
            recordFingerprint := fingerprint } = record := by
  simp only [makeRecord, bind_eq_ok, pure_eq_ok]

theorem entryDecision_eq_ok {decision : EvidenceState × List String} :
    entryDecision fromisoformat registry query entry = .ok decision ↔
      ∃ times, decisionTimes fromisoformat query entry = .ok times ∧
        (if exclusionReasons registry query entry times = [] then
          (.included, ["GOVERNED_QUERY_MATCH"])
        else (.excluded, sortedSet (exclusionReasons registry query entry times))) = decision := by
  simp only [entryDecision, bind_eq_ok, pure_eq_ok]

theorem recordEntry_eq_ok :
    recordEntry fromisoformat registry query entry = .ok record ↔ ∃ decision,
        entryDecision fromisoformat registry query entry = .ok decision ∧
          makeRecord entry decision = .ok record := by
  simp only [recordEntry, bind_eq_ok]

/-- An entry that a query may know: learned by the cutoff, and not about
another property than its subject. -/
structure Knowable (fromisoformat : FromIsoformat) (query : ScenarioEvidenceQuery)
    (entry : TemporalLedgerEntry) : Prop where
  learned : ∃ known cutoff, fromisoformat entry.knownAt = some (some known) ∧
      fromisoformat query.knowledgeCutoff = some (some cutoff) ∧ known ≤ cutoff
  own : entry.scope = "PROPERTY" → entry.scopeId = query.subjectId

@[simp] theorem reasonIf_eq_nil_iff {condition : Bool} {reason : String} :
    reasonIf condition reason = [] ↔ condition = false := by
  cases condition <;> simp [reasonIf]

/-- Only entries that the query may know are included. -/
theorem knowable_of_included
    (recorded : recordEntry fromisoformat registry query entry = .ok record)
    (included : record.state = .included) :
    Knowable fromisoformat query entry := by
  obtain ⟨decision, decided, made⟩ := recordEntry_eq_ok.mp recorded
  obtain ⟨times, parsed, decided⟩ := entryDecision_eq_ok.mp decided
  obtain ⟨_, _, rfl⟩ := makeRecord_eq_ok.mp made
  change decision.1 = .included at included
  have reasons : exclusionReasons registry query entry times = [] := by
    by_contra excluded
    rw [if_neg excluded] at decided
    rw [← decided] at included
    cases included
  simp only [exclusionReasons, List.append_eq_nil_iff, reasonIf_eq_nil_iff,
    decide_eq_false_iff_not, not_lt] at reasons
  obtain ⟨⟨⟨⟨_, learned⟩, own⟩, _⟩, _⟩ := reasons.1
  obtain ⟨_, _, cutoff, _, known⟩ := decisionTimes_eq_ok.mp parsed
  refine ⟨⟨times.known, times.cutoff, known, cutoff, learned⟩, ?_⟩
  intro property
  rw [if_pos property] at own
  split_ifs at own
  simpa using own

/-! ## Evidence sets -/

namespace EvidenceCall

/-- What `retrieve_scenario_evidence` asks of its arguments, apart from the
entries. -/
structure Acceptable (call : EvidenceCall F) : Prop where
  identified : Text.isBlank call.evidenceSetId = false
  replays : validateLedgerReplay call.ledger = .ok true
  community : call.ledger.communityId = call.context.communityId
  queryCommunity : call.query.communityId = call.context.communityId
  context : call.query.scenarioContextFingerprint = call.context.contextFingerprint
  contextFingerprint : Sha256.isHex64 call.context.contextFingerprint = true
  ledgerFingerprint : Sha256.isHex64 call.ledger.ledgerFingerprint = true

/-- The call on another ledger. -/
def onLedger (call : EvidenceCall F) (ledger : TemporalLedger) : EvidenceCall F :=
  { call with ledger := ledger }

end EvidenceCall

theorem retrieveScenarioEvidence_eq_ok :
    retrieveScenarioEvidence fromisoformat registry call = .ok evidenceSet ↔
      call.Acceptable ∧ ∃ records fingerprint, call.ledger.entries.mapM
            (recordEntry fromisoformat registry call.query) = .ok records ∧
          Community.History.hash (call.draftSet records).payload =
              .ok fingerprint ∧
            { call.draftSet records with
              evidenceSetFingerprint := fingerprint } = evidenceSet := by
  simp only [retrieveScenarioEvidence, bind_eq_ok, require_eq_ok,
    exists_const, validateFp, pure_eq_ok]
  constructor
  · rintro ⟨identified, _, replays, rfl, communities, context,
      contextFingerprint, ledgerFingerprint, records, recorded, fingerprint, hashed, made⟩
    exact ⟨⟨identified, replays, communities.1, communities.2, context,
      contextFingerprint, ledgerFingerprint⟩, records, fingerprint, recorded, hashed, made⟩
  · rintro ⟨acceptable, records, fingerprint, recorded, hashed, made⟩
    exact ⟨acceptable.identified, true, acceptable.replays, rfl,
      ⟨acceptable.community, acceptable.queryCommunity⟩, acceptable.context,
      acceptable.contextFingerprint, acceptable.ledgerFingerprint, records,
      recorded, fingerprint, hashed, made⟩

/-! ## Ledgers that agree on what may be known -/

/-- A ledger that was built of made entries. -/
structure Kept (fromisoformat : FromIsoformat) (ledger : TemporalLedger) : Prop where
  built : ledger.Built
  made : ∀ entry ∈ ledger.entries, entry.Made fromisoformat

/-- Ledgers that agree on what a query may know. -/
def AgreeOnKnowable (fromisoformat : FromIsoformat) (query : ScenarioEvidenceQuery)
    (ledger other : TemporalLedger) : Prop :=
  ∀ entry, Knowable fromisoformat query entry → (entry ∈ ledger.entries ↔ entry ∈ other.entries)

/-- The included records of two ledgers that agree on what may be known. -/
theorem rows_included_congr {ledger : TemporalLedger}
    {records otherRecords : List ScenarioEvidenceRecord}
    (built : ledger.Built) (otherBuilt : other.Built)
    (agree : AgreeOnKnowable fromisoformat query ledger other)
    (recorded : ledger.entries.mapM (recordEntry fromisoformat registry query) = .ok records)
    (otherRecorded : other.entries.mapM
      (recordEntry fromisoformat registry query) = .ok otherRecords) :
    EvidenceCall.rows .included records = EvidenceCall.rows .included otherRecords := by
  have ids : ∀ entry record,
      recordEntry fromisoformat registry query entry = .ok record →
        entry.entryId = record.entryId := by
    intro entry record made
    obtain ⟨_, _, made⟩ := recordEntry_eq_ok.mp made
    obtain ⟨_, _, rfl⟩ := makeRecord_eq_ok.mp made
    rfl
  have keyed : ∀ left right : ScenarioEvidenceRecord,
      left.sortKey = right.sortKey → left.entryId = right.entryId := by
    intro left right equal
    simp only [ScenarioEvidenceRecord.sortKey, toLex_inj, Prod.mk.injEq] at equal
    exact equal.2.2.1
  refine sortedBy_filter_eq_of_mapM recorded otherRecorded ids keyed
    built.distinct otherBuilt.distinct ?_
  intro entry record made included
  exact agree entry (knowable_of_included made (of_decide_eq_true included))

/-! ## What is kept for audit -/

/-- An evidence set without what it keeps for audit. -/
def ScenarioEvidenceSet.withoutAudit (evidenceSet : ScenarioEvidenceSet) :
    ScenarioEvidenceSet :=
  { evidenceSet with
    temporalLedgerFingerprint := ""
    excluded := []
    evidenceSetFingerprint := "" }

/-- A pricing/timing state without what it keeps for audit. -/
def PricingTimingScenarioState.withoutAudit
    (state : PricingTimingScenarioState F) : PricingTimingScenarioState F :=
  { state with
    scenarioEvidenceFingerprint := ""
    excludedHistoricalEvidenceCount := 0
    stateFingerprint := "" }

/-- A buyer/substitution state without what it keeps for audit. -/
def BuyerSubstitutionCompetitiveState.withoutAudit
    (state : BuyerSubstitutionCompetitiveState F) :
    BuyerSubstitutionCompetitiveState F :=
  { state with
    scenarioEvidenceFingerprint := ""
    pricingTimingStateFingerprint := ""
    stateFingerprint := "" }

/-- Evidence sets of two ledgers that agree on what may be known. -/
theorem evidenceSet_withoutAudit_congr (built : call.ledger.Built) (otherBuilt : other.Built)
    (agree : AgreeOnKnowable fromisoformat call.query call.ledger other)
    (retrieved : retrieveScenarioEvidence fromisoformat registry call = .ok evidenceSet)
    (otherRetrieved : retrieveScenarioEvidence fromisoformat registry
      (call.onLedger other) = .ok otherSet) :
    evidenceSet.withoutAudit = otherSet.withoutAudit := by
  obtain ⟨_, records, _, recorded, _, rfl⟩ := retrieveScenarioEvidence_eq_ok.mp retrieved
  obtain ⟨_, otherRecords, _, otherRecorded, _, rfl⟩ :=
    retrieveScenarioEvidence_eq_ok.mp otherRetrieved
  have same := rows_included_congr built otherBuilt agree recorded otherRecorded
  simp only [ScenarioEvidenceSet.withoutAudit, EvidenceCall.draftSet, EvidenceCall.onLedger, same]

section States

variable [PyFloat F]

/-- Pricing/timing states read of an evidence set what is not kept for
audit. -/
theorem pricingTiming_withoutAudit_congr
    {fromisoformat : DateFromisoformat} {registry : PricingTimingRegistry}
    {context : CertifiedScenarioBaseline F} {state otherState : PricingTimingScenarioState F}
    (same : evidenceSet.withoutAudit = otherSet.withoutAudit)
    (built : buildPricingTimingScenarioState fromisoformat registry context evidenceSet = .ok state)
    (otherBuilt : buildPricingTimingScenarioState fromisoformat registry
      context otherSet = .ok otherState) :
    state.withoutAudit = otherState.withoutAudit := by
  obtain ⟨_, pricing, timing, _, priced, timed, _, rfl⟩ :=
    buildPricingTimingScenarioState_eq_ok.mp built
  obtain ⟨_, otherPricing, otherTiming, _, otherPriced, otherTimed, _, rfl⟩ :=
    buildPricingTimingScenarioState_eq_ok.mp otherBuilt
  cases priced.symm.trans otherPriced
  cases timed.symm.trans otherTimed
  simp only [ScenarioEvidenceSet.withoutAudit, ScenarioEvidenceSet.mk.injEq] at same
  obtain ⟨-, -, -, -, -, included, -, sources, -, unknowns, limitations, -⟩ := same
  simp only [PricingTimingScenarioState.withoutAudit, draftPricingTiming,
    included, sources, unknowns, limitations]

/-- So do buyer/substitution states. -/
theorem buyerSubstitution_withoutAudit_congr {registry : BuyerSubstitutionRegistry}
    {context : CertifiedScenarioBaseline F}
    {pricingTiming otherPricingTiming : PricingTimingScenarioState F}
    {state otherState : BuyerSubstitutionCompetitiveState F}
    (same : evidenceSet.withoutAudit = otherSet.withoutAudit)
    (samePricing : pricingTiming.withoutAudit = otherPricingTiming.withoutAudit)
    (built : buildBuyerSubstitutionCompetitiveState registry context
      evidenceSet pricingTiming = .ok state)
    (otherBuilt : buildBuyerSubstitutionCompetitiveState registry context
      otherSet otherPricingTiming = .ok otherState) :
    state.withoutAudit = otherState.withoutAudit := by
  obtain ⟨_, positions, _, placed, _, rfl⟩ :=
    buildBuyerSubstitutionCompetitiveState_eq_ok.mp built
  obtain ⟨_, otherPositions, _, otherPlaced, _, rfl⟩ :=
    buildBuyerSubstitutionCompetitiveState_eq_ok.mp otherBuilt
  cases placed.symm.trans otherPlaced
  simp only [ScenarioEvidenceSet.withoutAudit, ScenarioEvidenceSet.mk.injEq] at same
  obtain ⟨-, -, -, -, -, included, -, -, -, unknowns, limitations, -⟩ := same
  have pricingUnknowns :
      pricingTiming.unknowns = otherPricingTiming.unknowns :=
    (congrArg PricingTimingScenarioState.unknowns samePricing :)
  have pricingLimitations :
      pricingTiming.limitations = otherPricingTiming.limitations :=
    (congrArg PricingTimingScenarioState.limitations samePricing :)
  simp only [BuyerSubstitutionCompetitiveState.withoutAudit,
    draftBuyerSubstitution, included, unknowns, limitations, pricingUnknowns,
    pricingLimitations]

end States

/-! ## Raising -/

/-- The times of a query can be read. -/
structure ScenarioEvidenceQuery.Readable
    (fromisoformat : FromIsoformat) (query : ScenarioEvidenceQuery) :
    Prop where
  validFrom : ∃ time, fromisoformat query.validFrom = some (some time)
  validTo : ∃ time, fromisoformat query.validTo = some (some time)
  cutoff : ∃ time, fromisoformat query.knowledgeCutoff = some (some time)

theorem readable_of_buildScenarioEvidenceQuery {call : QueryCall F}
    (built : buildScenarioEvidenceQuery fromisoformat registry call = .ok query) :
    query.Readable fromisoformat := by
  simp only [buildScenarioEvidenceQuery, bind_eq_ok, require_eq_ok,
    exists_const, validateFp, parseTs_eq_ok, pure_eq_ok] at built
  obtain ⟨_, _, _, _, start, startParsed, until_, untilParsed, cutoff,
    cutoffParsed, _, _, _, _, rfl⟩ := built
  exact ⟨⟨start, startParsed⟩, ⟨until_, untilParsed⟩, ⟨cutoff, cutoffParsed⟩⟩

theorem ScenarioEvidenceRecord.serializable_payload {record : ScenarioEvidenceRecord}
    (fact : Serializable record.factValue) :
    Serializable (.obj record.payload) := by
  simp [payload, fact]

theorem ScenarioEvidenceRecord.serializable_asdict (fact : Serializable record.factValue) :
    Serializable record.asdict := by
  simp [asdict, payload, fact]

/-- An evidence set of records whose facts can be written can be written. -/
theorem ScenarioEvidenceSet.serializable_payload {evidenceSet : ScenarioEvidenceSet}
    (included : ∀ record ∈ evidenceSet.included, Serializable record.factValue)
    (excluded : ∀ record ∈ evidenceSet.excluded, Serializable record.factValue) :
    Serializable evidenceSet.payload := by
  have includedWritten : ∀ record ∈ evidenceSet.included,
      Serializable record.asdict := fun record listed =>
    ScenarioEvidenceRecord.serializable_asdict (included record listed)
  have excludedWritten : ∀ record ∈ evidenceSet.excluded,
      Serializable record.asdict := fun record listed =>
    ScenarioEvidenceRecord.serializable_asdict (excluded record listed)
  simpa [payload] using ⟨includedWritten, excludedWritten⟩

/-- The fact of a made entry can be written. -/
theorem serializable_factValue_of_made (made : entry.Made fromisoformat) :
    Serializable entry.factValue := by
  have written := exists_sha256Dumps_iff.mp ⟨_, made.hashed⟩
  rw [serializable_obj] at written
  exact written ("fact_value", entry.factValue) (by simp [TemporalLedgerEntry.payload])

/-- The times of a made entry can be read. -/
theorem exists_times_of_made (made : entry.Made fromisoformat) :
    ∃ valid known, fromisoformat entry.validFrom = some (some valid) ∧
      fromisoformat entry.knownAt = some (some known) := by
  obtain ⟨registry, given, accepted⟩ := made
  obtain ⟨acceptable, _, _, rfl⟩ := makeTemporalEntry_eq_ok.mp accepted
  obtain ⟨valid, known, _, validParsed, knownParsed, _⟩ := acceptable.times
  exact ⟨valid, known, validParsed, knownParsed⟩

/-- A made entry has a record for every query that can be read. -/
theorem exists_recordEntry {fromisoformat : FromIsoformat} {registry : EvidenceRegistry}
    {query : ScenarioEvidenceQuery} {entry : TemporalLedgerEntry}
    (readable : query.Readable fromisoformat) (made : entry.Made fromisoformat) :
    ∃ record, recordEntry fromisoformat registry query entry = .ok record := by
  obtain ⟨start, startParsed⟩ := readable.validFrom
  obtain ⟨until_, untilParsed⟩ := readable.validTo
  obtain ⟨cutoff, cutoffParsed⟩ := readable.cutoff
  obtain ⟨valid, known, validParsed, knownParsed⟩ := exists_times_of_made made
  have parsed : decisionTimes fromisoformat query entry =
      .ok ⟨start, until_, cutoff, valid, known⟩ :=
    decisionTimes_eq_ok.mpr ⟨startParsed, untilParsed, cutoffParsed, validParsed, knownParsed⟩
  obtain ⟨decision, decided⟩ : ∃ decision,
      entryDecision fromisoformat registry query entry = .ok decision :=
    ⟨_, entryDecision_eq_ok.mpr ⟨_, parsed, rfl⟩⟩
  obtain ⟨fingerprint, hashed⟩ := exists_sha256Dumps_iff.mpr
    (@ScenarioEvidenceRecord.serializable_payload (draftRecord entry decision)
      (serializable_factValue_of_made made))
  exact ⟨_, recordEntry_eq_ok.mpr ⟨decision, decided,
    makeRecord_eq_ok.mpr ⟨fingerprint, hashed, rfl⟩⟩⟩

/-- A query that can be read retrieves from the ledgers it accepts. -/
theorem exists_retrieveScenarioEvidence
    {fromisoformat : FromIsoformat} {registry : EvidenceRegistry}
    {call : EvidenceCall F} (acceptable : call.Acceptable)
    (readable : call.query.Readable fromisoformat)
    (made : ∀ entry ∈ call.ledger.entries, entry.Made fromisoformat) :
    ∃ evidenceSet, retrieveScenarioEvidence fromisoformat registry call = .ok evidenceSet := by
  obtain ⟨records, recorded⟩ := exists_mapM_ok fun entry listed =>
    @exists_recordEntry fromisoformat registry _ _ readable (made entry listed)
  have facts : ∀ record ∈ records, Serializable record.factValue := by
    refine forall_mem_of_mapM recorded fun entry listed record found => ?_
    obtain ⟨_, _, recordMade⟩ := recordEntry_eq_ok.mp found
    obtain ⟨_, _, rfl⟩ := makeRecord_eq_ok.mp recordMade
    exact serializable_factValue_of_made (made entry listed)
  have rowFacts : ∀ state, ∀ record ∈ EvidenceCall.rows state records,
      Serializable record.factValue := by
    intro state record listed
    rw [EvidenceCall.rows, mem_sortedBy, List.mem_filter] at listed
    exact facts record listed.1
  obtain ⟨fingerprint, hashed⟩ := exists_sha256Dumps_iff.mpr
    (@ScenarioEvidenceSet.serializable_payload (call.draftSet records)
      (rowFacts .included) (rowFacts .excluded))
  exact ⟨_, retrieveScenarioEvidence_eq_ok.mpr
    ⟨acceptable, records, fingerprint, recorded, hashed, rfl⟩⟩

/-- What a call asks is asked of another ledger of the community too. -/
theorem EvidenceCall.Acceptable.onLedger (acceptable : call.Acceptable) (built : other.Built)
    (community : other.communityId = call.ledger.communityId) :
    (call.onLedger other).Acceptable where
  identified := acceptable.identified
  replays := built.replays
  community := community.trans acceptable.community
  queryCommunity := acceptable.queryCommunity
  context := acceptable.context
  contextFingerprint := acceptable.contextFingerprint
  ledgerFingerprint := by
    obtain ⟨text, _, hashed⟩ := sha256Dumps_eq_ok.mp built.hashed
    dsimp only [EvidenceCall.onLedger]
    rw [← hashed]
    exact Sha256.isHex64_hexdigest _

/-- A query that can be read retrieves from both of two ledgers of a
community, or from none. -/
theorem exists_retrieve_iff_onLedger (kept : Kept fromisoformat call.ledger)
    (otherKept : Kept fromisoformat other)
    (community : other.communityId = call.ledger.communityId)
    (readable : call.query.Readable fromisoformat) :
    (∃ evidenceSet, retrieveScenarioEvidence fromisoformat registry call = .ok evidenceSet) ↔
      ∃ otherSet, retrieveScenarioEvidence fromisoformat registry
        (call.onLedger other) = .ok otherSet := by
  constructor
  · rintro ⟨evidenceSet, retrieved⟩
    have acceptable := (retrieveScenarioEvidence_eq_ok.mp retrieved).1
    exact exists_retrieveScenarioEvidence
      (acceptable.onLedger otherKept.built community) readable otherKept.made
  · rintro ⟨otherSet, retrieved⟩
    have acceptable := (retrieveScenarioEvidence_eq_ok.mp retrieved).1
    exact exists_retrieveScenarioEvidence
      (acceptable.onLedger kept.built community.symm) readable kept.made

/-- What is included is what an entry that the query may know says. -/
theorem knowable_of_mem_included
    (retrieved : retrieveScenarioEvidence fromisoformat registry call = .ok evidenceSet)
    (included : record ∈ evidenceSet.included) :
    ∃ entry ∈ call.ledger.entries, Knowable fromisoformat call.query entry ∧
        recordEntry fromisoformat registry call.query entry = .ok record := by
  obtain ⟨_, records, _, recorded, _, rfl⟩ := retrieveScenarioEvidence_eq_ok.mp retrieved
  change record ∈ EvidenceCall.rows .included records at included
  rw [EvidenceCall.rows, mem_sortedBy, List.mem_filter,
    mem_mapM_iff recorded, decide_eq_true_eq] at included
  obtain ⟨⟨entry, listed, made⟩, state⟩ := included
  exact ⟨entry, listed, knowable_of_included made state, made⟩

/-- An entry that the query may not know is kept for audit, with its fact. -/
theorem exists_excluded_of_not_knowable
    (retrieved : retrieveScenarioEvidence fromisoformat registry call = .ok evidenceSet)
    (listed : entry ∈ call.ledger.entries)
    (unknown : ¬ Knowable fromisoformat call.query entry) :
    ∃ record ∈ evidenceSet.excluded, record.entryId = entry.entryId ∧
      record.factValue = entry.factValue := by
  obtain ⟨_, records, _, recorded, _, rfl⟩ := retrieveScenarioEvidence_eq_ok.mp retrieved
  obtain ⟨record, present, made⟩ := exists_ok_of_mapM recorded listed
  have excluded : record.state = .excluded := by
    cases state : record.state with
    | included => exact absurd (knowable_of_included made state) unknown
    | excluded => rfl
  refine ⟨record, ?_, ?_⟩
  · change record ∈ EvidenceCall.rows .excluded records
    rw [EvidenceCall.rows, mem_sortedBy, List.mem_filter, decide_eq_true_eq]
    exact ⟨present, excluded⟩
  · obtain ⟨_, _, made⟩ := recordEntry_eq_ok.mp made
    obtain ⟨_, _, rfl⟩ := makeRecord_eq_ok.mp made
    exact ⟨rfl, rfl⟩

/-! ## Runs on two ledgers -/

/-- The states of a scenario that are built on an evidence set. -/
structure StatesBuilt [PyFloat F] (fromisoformat : DateFromisoformat)
    (pricingRegistry : PricingTimingRegistry)
    (buyerRegistry : BuyerSubstitutionRegistry) (context : CertifiedScenarioBaseline F)
    (evidenceSet : ScenarioEvidenceSet) (pricingTiming : PricingTimingScenarioState F)
    (buyerSubstitution : BuyerSubstitutionCompetitiveState F) : Prop where
  pricingTimingBuilt : buildPricingTimingScenarioState fromisoformat
    pricingRegistry context evidenceSet = .ok pricingTiming
  buyerSubstitutionBuilt : buildBuyerSubstitutionCompetitiveState
    buyerRegistry context evidenceSet pricingTiming = .ok buyerSubstitution

/-- Evidence sets and states of two ledgers that agree on what the query may
know differ in what is kept for audit only, and include nothing else. -/
theorem evidence_no_lookAhead [PyFloat F] {fromisoformat : FromIsoformat}
    {dateFromisoformat : DateFromisoformat} {registry : EvidenceRegistry}
    {pricingRegistry : PricingTimingRegistry} {buyerRegistry : BuyerSubstitutionRegistry}
    {call : EvidenceCall F} {other : TemporalLedger}
    (built : call.ledger.Built) (otherBuilt : other.Built)
    (community : other.communityId = call.ledger.communityId)
    (agree : AgreeOnKnowable fromisoformat call.query call.ledger other) :
    (call.query.Readable fromisoformat → Kept fromisoformat call.ledger →
      Kept fromisoformat other → ((∃ evidenceSet, retrieveScenarioEvidence fromisoformat registry
          call = .ok evidenceSet) ↔
        ∃ otherSet, retrieveScenarioEvidence fromisoformat registry
          (call.onLedger other) = .ok otherSet)) ∧
      ∀ evidenceSet, retrieveScenarioEvidence fromisoformat registry call =
          .ok evidenceSet →
        (∀ record ∈ evidenceSet.included, ∃ entry ∈ call.ledger.entries,
          Knowable fromisoformat call.query entry ∧
            recordEntry fromisoformat registry call.query entry = .ok record) ∧
        ∀ otherSet, retrieveScenarioEvidence fromisoformat registry
            (call.onLedger other) = .ok otherSet →
          evidenceSet.withoutAudit = otherSet.withoutAudit ∧
            ∀ pricing buyer otherPricing otherBuyer,
              StatesBuilt dateFromisoformat pricingRegistry buyerRegistry
                  call.context evidenceSet pricing buyer →
                StatesBuilt dateFromisoformat pricingRegistry buyerRegistry
                    call.context otherSet otherPricing otherBuyer →
                  pricing.withoutAudit = otherPricing.withoutAudit ∧
                    buyer.withoutAudit = otherBuyer.withoutAudit := by
  refine ⟨fun readable kept otherKept =>
    exists_retrieve_iff_onLedger kept otherKept community readable, ?_⟩
  intro evidenceSet retrieved
  refine ⟨fun record included => knowable_of_mem_included retrieved included,
    ?_⟩
  intro otherSet otherRetrieved
  have same := evidenceSet_withoutAudit_congr built otherBuilt agree
    retrieved otherRetrieved
  refine ⟨same, ?_⟩
  intro pricing buyer otherPricing otherBuyer states otherStates
  have samePricing := pricingTiming_withoutAudit_congr same
    states.pricingTimingBuilt otherStates.pricingTimingBuilt
  exact ⟨samePricing, buyerSubstitution_withoutAudit_congr same samePricing
    states.buyerSubstitutionBuilt otherStates.buyerSubstitutionBuilt⟩

/-! ## A query about one home -/

/-- A context without facts, up to its fingerprint. -/
def bareContext : CertifiedScenarioBaseline ℚ where
  scenarioId := "S"
  scenarioContractFingerprint := ""
  communityId := "STH"
  subjectId := "HOME-1"
  baselineSnapshotId := "B"
  baselineFingerprint := ""
  facts := []
  factSourceFingerprints := []
  assumptions := []
  patternApplicability := []
  unknowns := []
  limitations := []
  contextFingerprint := ""

/-- What was known of a home on the first of January. -/
def bareQueryCall (context : CertifiedScenarioBaseline ℚ) : QueryCall ℚ where
  queryId := "Q"
  context := context
  scopes := ["PROPERTY", "COMMUNITY"]
  factKeys := ["state"]
  validFrom := "2026-01-01T00:00:00+00:00"
  validTo := "2026-02-01T00:00:00+00:00"
  knowledgeCutoff := "2026-01-01T00:00:00+00:00"
  includeSubjectHistory := true
  includeCommunityHistory := true

theorem exists_bareContext :
    ∃ fingerprint, bareContext.payload.sha256 = .ok fingerprint ∧
      Sha256.isHex64 fingerprint = true := by
  obtain ⟨fingerprint, hashed⟩ := PyValue.exists_sha256_iff.mpr
    (show bareContext.payload.Writable by
      simp [CertifiedScenarioBaseline.payload, bareContext, PyValue.pairs])
  obtain ⟨text, _, rfl⟩ := PyValue.sha256_eq_ok.mp hashed
  exact ⟨_, hashed, Sha256.isHex64_hexdigest _⟩

theorem exists_bareQuery {context : CertifiedScenarioBaseline ℚ}
    (fingerprinted : Sha256.isHex64 context.contextFingerprint = true) :
    ∃ fingerprint, buildScenarioEvidenceQuery
        Community.sampleFromisoformat evidenceRegistry
        (bareQueryCall context) =
      .ok { (bareQueryCall context).draftQuery with
        queryFingerprint := fingerprint } := by
  obtain ⟨fingerprint, hashed⟩ := exists_sha256Dumps_iff.mpr
    (show Serializable (bareQueryCall context).draftQuery.payload by
      simp [ScenarioEvidenceQuery.payload])
  have scopes : strippedSet ["PROPERTY", "COMMUNITY"] ≠ [] ∧
      ∀ scope ∈ strippedSet ["PROPERTY", "COMMUNITY"],
        scope ∈ evidenceRegistry.allowedScopes := by decide +kernel
  have factKeys : strippedSet ["state"] ≠ [] := by decide +kernel
  refine ⟨fingerprint, ?_⟩
  simp only [buildScenarioEvidenceQuery, bind_eq_ok, require_eq_ok,
    exists_const, validateFp, parseTs_eq_ok, pure_eq_ok]
  exact ⟨(by decide : Text.isBlank "Q" = false), fingerprinted, scopes,
    fun missing => factKeys missing.2, 1767225600, rfl, 1769904000, rfl,
    1767225600, rfl, by omega, le_rfl, fingerprint, hashed, rfl⟩

/-- What was learned in February of another home. -/
def foreignEntry : TemporalLedgerEntry :=
  { Community.History.bareEntry "OTHER" "2026-01-01T00:00:00+00:00"
      "2026-02-01T00:00:00+00:00" "SOLD" with
    scope := "PROPERTY"
    scopeId := "HOME-2" }

theorem exists_foreignEntry :
    ∃ fingerprint, Community.History.makeTemporalEntry
        Community.sampleFromisoformat Community.History.registry
        foreignEntry =
      .ok { foreignEntry with entryFingerprint := fingerprint } := by
  have acceptable := @Community.History.acceptable_bareEntry
    Community.sampleFromisoformat "OTHER" "2026-01-01T00:00:00+00:00"
    "2026-02-01T00:00:00+00:00" "SOLD" 1767225600 1769904000 (by decide) rfl
    rfl
  have identified : ∀ text ∈ ["OTHER", "STH", "HOME-2", "state"],
      Text.isBlank text = false := by decide
  exact Community.History.exists_makeTemporalEntry
    { acceptable with
      identified := identified
      scope := List.mem_cons_self }
    (textual_str _)

theorem not_knowable_foreignEntry
    {context : CertifiedScenarioBaseline ℚ} (fingerprint other : String) :
    ¬ Knowable Community.sampleFromisoformat
      { (bareQueryCall context).draftQuery with
        queryFingerprint := fingerprint }
      { foreignEntry with entryFingerprint := other } := by
  rintro ⟨⟨known, cutoff, knownParsed, cutoffParsed, learned⟩, _⟩
  cases knownParsed
  cases cutoffParsed
  omega

/-- A call of the query about one home, and a ledger that holds one more
entry, about another. -/
structure SampleLedgers (call : EvidenceCall ℚ) (other : TemporalLedger)
    (entry : TemporalLedgerEntry) : Prop where
  identified : call.evidenceSetId = "E"
  context : call.context.payload.sha256 = .ok call.context.contextFingerprint
  query : buildScenarioEvidenceQuery Community.sampleFromisoformat
    evidenceRegistry (bareQueryCall call.context) = .ok call.query
  kept : Kept Community.sampleFromisoformat call.ledger
  otherKept : Kept Community.sampleFromisoformat other
  community : other.communityId = call.ledger.communityId
  acceptable : call.Acceptable
  foreign : ∃ fingerprint, entry = { foreignEntry with entryFingerprint := fingerprint }
  grown : ∀ item, item ∈ other.entries ↔ item ∈ call.ledger.entries ∨ item = entry
  unknown : ¬ Knowable Community.sampleFromisoformat call.query entry
  subject : call.context.subjectId = "HOME-1"

theorem exists_sampleLedgers : ∃ call other entry, SampleLedgers call other entry := by
  obtain ⟨contextFingerprint, hashed, shape⟩ := exists_bareContext
  obtain ⟨queryFingerprint, built⟩ := @exists_bareQuery
    { bareContext with contextFingerprint := contextFingerprint } shape
  obtain ⟨ownFingerprint, ownMade⟩ := @Community.History.exists_bareEntry
    Community.sampleFromisoformat "FIRST" "2026-01-01T00:00:00+00:00"
    "2026-01-01T00:00:00+00:00" "PLANNED" 1767225600 1767225600 (by decide)
    rfl rfl
  obtain ⟨otherFingerprint, otherMade⟩ := exists_foreignEntry
  have differ : "FIRST" ≠ "OTHER" := by decide
  obtain ⟨ledger, other, ledgerBuilt, ran, entries, grown⟩ :=
    @Community.History.exists_bareRun Community.sampleFromisoformat
      { Community.History.januaryEntry with
        entryFingerprint := ownFingerprint }
      { foreignEntry with entryFingerprint := otherFingerprint } rfl rfl
      differ (textual_str _) (textual_str _) rfl
  obtain ⟨kept, ledgerId, communityId, _⟩ :=
    Community.History.buildTemporalLedger_eq_ok.mp ledgerBuilt
  obtain ⟨otherKept, extended⟩ := Community.History.extends_of_runCalls kept ran
  have ledgerShape : Sha256.isHex64 ledger.ledgerFingerprint = true := by
    obtain ⟨text, _, same⟩ := sha256Dumps_eq_ok.mp kept.hashed
    rw [← same]
    exact Sha256.isHex64_hexdigest _
  have ownOrOther : ∀ item ∈ other.entries,
      item.Made Community.sampleFromisoformat := by
    intro item listed
    rcases (grown item).mp listed with rfl | rfl
    · exact ⟨_, _, ownMade⟩
    · exact ⟨_, _, otherMade⟩
  let context := { bareContext with contextFingerprint := contextFingerprint }
  let query := { (bareQueryCall context).draftQuery with
    queryFingerprint := queryFingerprint }
  refine ⟨⟨"E", context, ledger, query, [], []⟩, other,
    { foreignEntry with entryFingerprint := otherFingerprint }, ?_⟩
  exact
    { identified := rfl
      context := hashed
      query := built
      kept := ⟨kept, fun item listed =>
        ownOrOther item (extended.kept item listed)⟩
      otherKept := ⟨otherKept, ownOrOther⟩
      community := extended.communityId
      acceptable :=
        { identified := (by decide : Text.isBlank "E" = false)
          replays := kept.replays
          community := communityId
          queryCommunity := rfl
          context := rfl
          contextFingerprint := shape
          ledgerFingerprint := ledgerShape }
      foreign := ⟨otherFingerprint, rfl⟩
      grown := by
        intro item
        dsimp only
        rw [grown, entries, List.mem_singleton]
      unknown := not_knowable_foreignEntry _ _
      subject := rfl }

theorem evidence_no_lookAhead_sample :
    ∃ (call : EvidenceCall ℚ) (other : TemporalLedger)
        (evidenceSet otherSet : ScenarioEvidenceSet),
      retrieveScenarioEvidence Community.sampleFromisoformat
          evidenceRegistry call = .ok evidenceSet ∧
        retrieveScenarioEvidence Community.sampleFromisoformat
            evidenceRegistry (call.onLedger other) = .ok otherSet ∧
          evidenceSet.withoutAudit = otherSet.withoutAudit ∧
            ∃ entry ∈ other.entries, entry.factValue = .str "SOLD" := by
  obtain ⟨call, other, entry, sample⟩ := exists_sampleLedgers
  have agree : AgreeOnKnowable Community.sampleFromisoformat call.query
      call.ledger other := by
    intro item known
    rw [sample.grown]
    refine (or_iff_left ?_).symm
    rintro rfl
    exact sample.unknown known
  have readable := readable_of_buildScenarioEvidenceQuery sample.query
  obtain ⟨evidenceSet, retrieved⟩ := @exists_retrieveScenarioEvidence ℚ
    Community.sampleFromisoformat evidenceRegistry call sample.acceptable
    readable sample.kept.made
  obtain ⟨both, same⟩ := @evidence_no_lookAhead ℚ _
    Community.sampleFromisoformat (fun _ => none) evidenceRegistry
    pricingTimingRegistry buyerSubstitutionRegistry call other sample.kept.built
    sample.otherKept.built sample.community agree
  obtain ⟨otherSet, otherRetrieved⟩ :=
    (both readable sample.kept sample.otherKept).mp ⟨evidenceSet, retrieved⟩
  obtain ⟨fingerprint, found⟩ := sample.foreign
  refine ⟨call, other, evidenceSet, otherSet, retrieved, otherRetrieved,
    ((same evidenceSet retrieved).2 otherSet otherRetrieved).1, entry,
    (sample.grown entry).mpr (.inr rfl), ?_⟩
  rw [found]
  rfl

/-- What was learned after the cutoff of another home than the subject is in
the evidence set, for audit. -/
theorem evidence_keeps_what_is_not_known :
    ∃ (call : EvidenceCall ℚ) (evidenceSet : ScenarioEvidenceSet),
      call.context.payload.sha256 = .ok call.context.contextFingerprint ∧
        buildScenarioEvidenceQuery Community.sampleFromisoformat
            evidenceRegistry (bareQueryCall call.context) =
            .ok call.query ∧
          Kept Community.sampleFromisoformat call.ledger ∧
            retrieveScenarioEvidence Community.sampleFromisoformat
                evidenceRegistry call = .ok evidenceSet ∧
              ∃ entry ∈ call.ledger.entries, entry.scope = "PROPERTY" ∧
                  entry.scopeId ≠ call.context.subjectId ∧
                    ¬ Knowable Community.sampleFromisoformat call.query entry ∧
                      entry.factValue = .str "SOLD" ∧
                        ∃ record ∈ evidenceSet.excluded,
                          record.entryId = entry.entryId ∧
                            record.factValue = .str "SOLD" := by
  obtain ⟨call, other, entry, sample⟩ := exists_sampleLedgers
  obtain ⟨evidenceSet, retrieved⟩ := @exists_retrieveScenarioEvidence ℚ
    Community.sampleFromisoformat evidenceRegistry (call.onLedger other)
    (sample.acceptable.onLedger sample.otherKept.built sample.community)
    (readable_of_buildScenarioEvidenceQuery sample.query)
    sample.otherKept.made
  have listed := (sample.grown entry).mpr (.inr rfl)
  obtain ⟨record, excluded, same, fact⟩ :=
    exists_excluded_of_not_knowable retrieved listed sample.unknown
  obtain ⟨fingerprint, found⟩ := sample.foreign
  have sold : entry.factValue = .str "SOLD" := by
    rw [found]
    rfl
  have elsewhere : entry.scopeId ≠ call.context.subjectId := by
    rw [found, sample.subject]
    exact (by decide : "HOME-2" ≠ "HOME-1")
  refine ⟨call.onLedger other, evidenceSet, sample.context, sample.query,
    sample.otherKept, retrieved, entry, listed, ?_, elsewhere,
    sample.unknown, sold, record, excluded, same, fact.trans sold⟩
  rw [found]
  rfl

end SanTanHeights.Scenario
