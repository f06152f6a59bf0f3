import SanTanHeights.Scenario.Applicability
import SanTanHeights.Scenario.LookAhead
import SanTanHeights.Shared.PyEquality

/-!
# Replays of scenario artefacts

A certified baseline and an evidence set are checked by building them again.
What the caller added to their unknowns and limitations is not kept apart, so
that a replay takes from the merged lists what does not look derived.
-/

namespace SanTanHeights.Scenario

open Foundation Foundation.Sorting Foundation.Outcome Shared
open Community (FromIsoformat)
open Community.History (hash mem_sortedSet sortedSet sortedSet_congr validateFp)
open Community.Patterns (GovernedPatternCandidate validateCandidateReplay)

variable {F : Type}

/-! ## Equality of artefacts -/

/-- Lists whose items are the same, in order. -/
def sameItems {α : Type} (same : α → α → Bool) : List α → List α → Bool
  | [], [] => true
  | item :: items, other :: others =>
      same item other && sameItems same items others
  | _, _ => false

theorem sameItems_refl {α : Type} {same : α → α → Bool}
    (reflexive : ∀ item, same item item = true) (items : List α) :
    sameItems same items items = true := by
  induction items with
  | nil => rfl
  | cons item items ih =>
      rw [sameItems, reflexive, ih, Bool.and_true]

/-- Entries of one key and the same value. -/
def sameEntry [PyFloat F] [DecidableEq F] (entry other : String × PyValue F) : Bool :=
  entry.1 == other.1 && entry.2.same other.2

/-- `replay == context`. -/
def CertifiedScenarioBaseline.same [PyFloat F] [DecidableEq F]
    (replay context : CertifiedScenarioBaseline F) :
    Bool :=
  decide (replay.scenarioId = context.scenarioId) &&
  decide (replay.scenarioContractFingerprint = context.scenarioContractFingerprint) &&
  decide (replay.communityId = context.communityId) &&
  decide (replay.subjectId = context.subjectId) &&
  decide (replay.baselineSnapshotId = context.baselineSnapshotId) &&
  decide (replay.baselineFingerprint = context.baselineFingerprint) &&
  sameItems sameEntry replay.facts context.facts &&
  decide (replay.factSourceFingerprints = context.factSourceFingerprints) &&
  sameItems sameEntry replay.assumptions context.assumptions &&
  decide (replay.patternApplicability = context.patternApplicability) &&
  decide (replay.unknowns = context.unknowns) &&
  decide (replay.limitations = context.limitations) &&
  decide (replay.contextFingerprint = context.contextFingerprint)

theorem CertifiedScenarioBaseline.same_refl
    [PyFloat F] [DecidableEq F] (context : CertifiedScenarioBaseline F) :
    context.same context = true := by
  have entries : ∀ entry : String × PyValue F,
      sameEntry entry entry = true := fun entry => by simp [sameEntry]
  simp [CertifiedScenarioBaseline.same, sameItems_refl entries]

namespace ScenarioEvidenceRecord

/-- `row == other`. -/
def same (record other : ScenarioEvidenceRecord) : Bool :=
  decide (record.entryId = other.entryId) &&
  decide (record.entryFingerprint = other.entryFingerprint) &&
  decide (record.state = other.state) &&
  decide (record.reasonCodes = other.reasonCodes) &&
  decide (record.scope = other.scope) &&
  decide (record.scopeId = other.scopeId) &&
  decide (record.factKey = other.factKey) &&
  record.factValue.same other.factValue &&
  decide (record.validFrom = other.validFrom) &&
  decide (record.validTo = other.validTo) &&
  decide (record.knownAt = other.knownAt) &&
  decide (record.truthState = other.truthState) &&
  decide (record.sourceFingerprints = other.sourceFingerprints) &&
  decide (record.evidenceFingerprints = other.evidenceFingerprints) &&
  decide (record.previousEntryFingerprint = other.previousEntryFingerprint) &&
  decide (record.limitations = other.limitations) &&
  decide (record.recordFingerprint = other.recordFingerprint)

theorem same_refl (record : ScenarioEvidenceRecord) : record.same record = true := by
  simp [same]

end ScenarioEvidenceRecord

/-- `replay == evidence_set`. -/
def ScenarioEvidenceSet.same (replay evidenceSet : ScenarioEvidenceSet) : Bool :=
  decide (replay.evidenceSetId = evidenceSet.evidenceSetId) &&
  decide (replay.scenarioId = evidenceSet.scenarioId) &&
  decide (replay.scenarioContextFingerprint = evidenceSet.scenarioContextFingerprint) &&
  decide (replay.temporalLedgerFingerprint = evidenceSet.temporalLedgerFingerprint) &&
  decide (replay.queryFingerprint = evidenceSet.queryFingerprint) &&
  sameItems ScenarioEvidenceRecord.same replay.included evidenceSet.included &&
  sameItems ScenarioEvidenceRecord.same replay.excluded evidenceSet.excluded &&
  decide (replay.sourceFingerprints = evidenceSet.sourceFingerprints) &&
  decide (replay.evidenceFingerprints = evidenceSet.evidenceFingerprints) &&
  decide (replay.unknowns = evidenceSet.unknowns) &&
  decide (replay.limitations = evidenceSet.limitations) &&
  decide (replay.evidenceSetFingerprint = evidenceSet.evidenceSetFingerprint)

theorem ScenarioEvidenceSet.same_refl (evidenceSet : ScenarioEvidenceSet) :
    evidenceSet.same evidenceSet = true := by
  simp [ScenarioEvidenceSet.same, sameItems_refl ScenarioEvidenceRecord.same_refl]

/-! ## Replays -/

/-- Whether a text starts like what an unknown pattern adds. -/
def startsWithId (patternId text : String) : Bool :=
  (patternId ++ ":").toList.isPrefixOf text.toList

/-- What a context is assembled from again. -/
def BaselineCall.replayOf (call : BaselineCall F) (context : CertifiedScenarioBaseline F) :
    BaselineCall F :=
  { call with
    baselineSnapshotId := context.baselineSnapshotId
    baselineFingerprint := context.baselineFingerprint
    unknowns := context.unknowns.filter fun text =>
      !context.patternApplicability.any fun pattern =>
        startsWithId pattern.patternId text
    limitations := context.limitations.filter fun text =>
      !context.patternApplicability.any fun pattern =>
        pattern.limitations.contains text }

/-- `validate_certified_scenario_baseline_replay`; the snapshot, the
fingerprint, the unknowns and the limitations of the call are not read. -/
def validateCertifiedScenarioBaselineReplay [PyFloat F] [DecidableEq F]
    (context : CertifiedScenarioBaseline F) (call : BaselineCall F) :
    Except String Bool := do
  let replay ← assembleCertifiedScenarioBaseline (call.replayOf context)
  return replay.same context

/-- What is unknown where no record is included. -/
def noEvidence : String := "NO_HISTORICAL_EVIDENCE_MATCHED_GOVERNED_QUERY"

/-- What limits every evidence set. -/
def descriptive : String :=
  "Historical evidence is descriptive and does not predict future " ++ "outcomes."

/-- What an evidence set is retrieved with again. -/
def EvidenceCall.replayOf (call : EvidenceCall F) (evidenceSet : ScenarioEvidenceSet) :
    EvidenceCall F :=
  { call with
    evidenceSetId := evidenceSet.evidenceSetId
    additionalUnknowns := evidenceSet.unknowns.filter fun text =>
      text ≠ noEvidence
    additionalLimitations := evidenceSet.limitations.filter fun text =>
      text ≠ descriptive && !evidenceSet.included.any fun row => row.limitations.contains text }

/-- `validate_scenario_evidence_replay`; the identifier and the additional
texts of the call are not read. -/
def validateScenarioEvidenceReplay (fromisoformat : FromIsoformat) (registry : EvidenceRegistry)
    (evidenceSet : ScenarioEvidenceSet) (call : EvidenceCall F) :
    Except String Bool := do
  let replay ← retrieveScenarioEvidence fromisoformat registry
    (call.replayOf evidenceSet)
  return replay.same evidenceSet

variable {text : String} {values : List String} {call : BaselineCall F}
  {applicability : List PatternApplicability}

/-! ## Merged texts -/

theorem mem_strippedSet :
    text ∈ strippedSet values ↔ ∃ value ∈ values, Text.isBlank value = false ∧
        Text.strip value = text := by
  simp only [strippedSet, mem_sortedSet, List.mem_map, List.mem_filter,
    Bool.not_eq_true', and_assoc]

/-- Texts of a stripped set are stripped. -/
theorem stripped_of_mem (listed : text ∈ strippedSet values) :
    Text.isBlank text = false ∧ Text.strip text = text := by
  obtain ⟨value, -, visible, rfl⟩ := mem_strippedSet.mp listed
  exact ⟨(Text.isBlank_strip value).trans visible, Text.strip_strip value⟩

theorem ne_empty_of_mem_strippedSet (listed : text ∈ strippedSet values) : text ≠ "" := by
  rintro rfl
  exact absurd (stripped_of_mem listed).1 (by decide)

/-- Texts that are kept out of a stripped set form a stripped set. -/
theorem mem_strippedSet_filter {merged : List String} {keep : String → Bool}
    (kept : ∀ text, text ∈ merged ∧ keep text = true ↔
      text ∈ strippedSet values ∧ keep text = true) :
    text ∈ strippedSet (merged.filter keep) ↔ text ∈ strippedSet values ∧ keep text = true := by
  rw [mem_strippedSet]
  constructor
  · rintro ⟨value, listed, -, rfl⟩
    have found := (kept value).mp (List.mem_filter.mp listed)
    rw [(stripped_of_mem found.1).2]
    exact found
  · intro found
    have own := stripped_of_mem found.1
    exact ⟨text, List.mem_filter.mpr ((kept text).mpr found), own.1, own.2⟩

/-- Merged texts are merged again out of those that do not look derived,
exactly when what looks derived is. -/
theorem merged_filter_eq_iff {derived : List String} {keep : String → Bool}
    (looksDerived : ∀ text ∈ derived, keep text = false) :
    sortedSet (strippedSet
        ((sortedSet (strippedSet values ++ derived)).filter keep) ++ derived) =
        sortedSet (strippedSet values ++ derived) ↔
      ∀ text ∈ strippedSet values, keep text = false → text ∈ derived := by
  have again : ∀ text, text ∈ strippedSet
        ((sortedSet (strippedSet values ++ derived)).filter keep) ↔
      text ∈ strippedSet values ∧ keep text = true := by
    refine fun text => mem_strippedSet_filter fun text => ?_
    rw [mem_sortedSet, List.mem_append]
    refine and_congr_left fun kept => or_iff_left fun listed => ?_
    rw [looksDerived text listed] at kept
    exact Bool.false_ne_true kept
  constructor
  · intro same text listed looks
    have present : text ∈ sortedSet (strippedSet values ++ derived) :=
      mem_sortedSet.mpr (List.mem_append_left _ listed)
    rw [← same, mem_sortedSet, List.mem_append, again] at present
    rcases present with own | found
    · rw [own.2] at looks
      exact absurd looks (by decide)
    · exact found
  · intro covered
    refine sortedSet_congr fun text => ?_
    rw [List.mem_append, List.mem_append, again]
    constructor
    · rintro (own | found)
      · exact .inl own.1
      · exact .inr found
    · rintro (listed | found)
      · by_cases kept : keep text = true
        · exact .inl ⟨listed, kept⟩
        · exact .inr (covered text listed (Bool.not_eq_true _ ▸ kept))
      · exact .inr found

/-! ## Certified baselines -/

section Baselines

variable [PyFloat F]

namespace BaselineCall

/-- What is found out about a promoted pattern. -/
def found (call : BaselineCall F) (pattern : GovernedPatternCandidate F) : Assessment :=
  assessment pattern.domain (call.rule pattern.domain) call.baselineFacts call.assumptions

/-- A text that an unknown pattern adds. -/
def Derivable (call : BaselineCall F) (text : String) : Prop :=
  ∃ pattern ∈ call.promotedPatterns, (call.found pattern).state = .unknown ∧
    ∃ reason ∈ (call.found pattern).reasons, text = unknownItem pattern.patternId reason

/-- No unknown of the caller starts with the identifier of a promoted pattern
and a colon, unless the pattern adds it too. -/
def Replayable (call : BaselineCall F) : Prop :=
  ∀ text ∈ strippedSet call.unknowns, (∃ pattern ∈ call.promotedPatterns,
      startsWithId pattern.patternId text = true) →
    call.Derivable text

/-- What holds of an assessed pattern is what holds of an assessment. -/
theorem exists_mem_applicability_iff (assessed : call.applicability = .ok applicability)
    (holds : PatternApplicability → Prop) : (∃ pattern ∈ applicability, holds pattern) ↔
      ∃ pattern ∈ call.promotedPatterns, ∃ answer,
        call.assess pattern = .ok answer ∧ holds answer := by
  obtain ⟨-, -, assessed⟩ := bind_eq_ok.mp assessed
  obtain ⟨-, assessed⟩ := require_bind_eq_ok.mp assessed
  obtain ⟨-, assessed⟩ := require_bind_eq_ok.mp assessed
  obtain ⟨-, assessed⟩ := require_bind_eq_ok.mp assessed
  obtain ⟨answers, each, assessed⟩ := bind_eq_ok.mp assessed
  obtain ⟨-, assessed⟩ := require_bind_eq_ok.mp assessed
  obtain ⟨-, -, made⟩ := bind_eq_ok.mp assessed
  cases made
  simp only [mem_sortedBy, mem_mapM_iff each]
  constructor
  · rintro ⟨answer, ⟨pattern, listed, made⟩, held⟩
    exact ⟨pattern, listed, answer, made, held⟩
  · rintro ⟨pattern, listed, answer, made, held⟩
    exact ⟨answer, ⟨pattern, listed, made⟩, held⟩

theorem exists_assess (assessed : call.applicability = .ok applicability)
    {pattern : GovernedPatternCandidate F} (listed : pattern ∈ call.promotedPatterns) :
    ∃ answer, call.assess pattern = .ok answer := by
  obtain ⟨-, -, assessed⟩ := bind_eq_ok.mp assessed
  obtain ⟨-, assessed⟩ := require_bind_eq_ok.mp assessed
  obtain ⟨-, assessed⟩ := require_bind_eq_ok.mp assessed
  obtain ⟨-, assessed⟩ := require_bind_eq_ok.mp assessed
  obtain ⟨answers, each, -⟩ := bind_eq_ok.mp assessed
  obtain ⟨answer, -, made⟩ := exists_ok_of_mapM each listed
  exact ⟨answer, made⟩

/-- What an assessed pattern keeps of its candidate and of what was found. -/
theorem assess_eq {pattern : GovernedPatternCandidate F} {answer : PatternApplicability}
    (assessed : call.assess pattern = .ok answer) :
    ∃ fingerprint, answer =
      { draftApplicability pattern (call.found pattern) with
        applicabilityFingerprint := fingerprint } := by
  obtain ⟨-, -, fingerprint, -, rfl⟩ := assessPatternApplicability_eq_ok.mp assessed
  exact ⟨fingerprint, rfl⟩

/-- What the assessed patterns add is what the candidates add. -/
theorem mem_derivedUnknowns_iff (assessed : call.applicability = .ok applicability) :
    text ∈ derivedUnknowns applicability ↔ call.Derivable text := by
  have listedIff : text ∈ derivedUnknowns applicability ↔
      ∃ pattern ∈ applicability, pattern.state = "UNKNOWN" ∧
        ∃ reason ∈ pattern.reasonCodes, text = unknownItem pattern.patternId reason := by
    simp only [derivedUnknowns, List.mem_flatMap, List.mem_filter,
      List.mem_map, decide_eq_true_eq, and_assoc, eq_comm (b := text)]
  rw [listedIff, exists_mem_applicability_iff assessed]
  constructor
  · rintro ⟨pattern, listed, answer, made, unknown, reason, given, rfl⟩
    obtain ⟨fingerprint, rfl⟩ := assess_eq made
    exact ⟨pattern, listed, PatternState.code_injective unknown, reason,
      mem_sortedSet.mp given, rfl⟩
  · rintro ⟨pattern, listed, unknown, reason, given, rfl⟩
    obtain ⟨answer, made⟩ := exists_assess assessed listed
    obtain ⟨fingerprint, rfl⟩ := assess_eq made
    exact ⟨pattern, listed, _, made, congrArg PatternState.code unknown,
      reason, mem_sortedSet.mpr given, rfl⟩

/-- What starts like a text of an assessed pattern starts like one of its
candidate. -/
theorem any_startsWithId_iff (assessed : call.applicability = .ok applicability) :
    (applicability.any fun pattern =>
        startsWithId pattern.patternId text) = true ↔
      ∃ pattern ∈ call.promotedPatterns, startsWithId pattern.patternId text = true := by
  rw [List.any_eq_true, exists_mem_applicability_iff assessed]
  constructor
  · rintro ⟨pattern, listed, answer, made, starts⟩
    obtain ⟨fingerprint, rfl⟩ := assess_eq made
    exact ⟨pattern, listed, starts⟩
  · rintro ⟨pattern, listed, starts⟩
    obtain ⟨answer, made⟩ := exists_assess assessed listed
    obtain ⟨fingerprint, rfl⟩ := assess_eq made
    exact ⟨pattern, listed, _, made, starts⟩

end BaselineCall

theorem startsWithId_unknownItem (patternId reason : String) :
    startsWithId patternId (unknownItem patternId reason) = true := by
  rw [startsWithId, List.isPrefixOf_iff_prefix]
  exact ⟨reason.toList, String.toList_append.symm⟩

/-- What the patterns add to the unknowns starts with their identifiers. -/
theorem any_startsWithId_of_derived (derived : text ∈ derivedUnknowns applicability) :
    (applicability.any fun pattern =>
      startsWithId pattern.patternId text) = true := by
  rw [derivedUnknowns, List.mem_flatMap] at derived
  obtain ⟨pattern, listed, added⟩ := derived
  obtain ⟨reason, -, rfl⟩ := List.mem_map.mp added
  exact List.any_eq_true.mpr ⟨pattern, (List.mem_filter.mp listed).1, startsWithId_unknownItem _ _⟩

/-- The limitations of a context are merged again as they were. -/
theorem limitations_again (values : List String) (applicability : List PatternApplicability) :
    sortedSet (strippedSet ((sortedSet (strippedSet values ++
          patternLimitations applicability)).filter fun text =>
            !applicability.any fun pattern =>
              pattern.limitations.contains text) ++
          patternLimitations applicability) =
      sortedSet (strippedSet values ++ patternLimitations applicability) := by
  have ofPattern : ∀ text, (applicability.any fun pattern =>
        pattern.limitations.contains text) = true ↔
      text ∈ applicability.flatMap PatternApplicability.limitations := by
    intro text
    simp only [List.any_eq_true, List.contains_iff_mem, List.mem_flatMap]
  refine (merged_filter_eq_iff fun text listed => ?_).mpr ?_
  · rw [Bool.not_eq_false', ofPattern]
    exact (List.mem_filter.mp listed).1
  · intro text listed looks
    rw [Bool.not_eq_false', ofPattern] at looks
    exact List.mem_filter.mpr ⟨looks, decide_eq_true (ne_empty_of_mem_strippedSet listed)⟩

theorem assembleCertifiedScenarioBaseline_eq_ok {context : CertifiedScenarioBaseline F} :
    assembleCertifiedScenarioBaseline call = .ok context ↔
      ∃ applicability, call.applicability = .ok applicability ∧ ∃ fingerprint,
          (call.draftContext applicability).payload.sha256 = .ok fingerprint ∧
            { call.draftContext applicability with
              contextFingerprint := fingerprint } = context := by
  simp only [assembleCertifiedScenarioBaseline, bind_eq_ok, pure_eq_ok]

/-- A context replays exactly when no unknown of the caller looks like one
that a pattern adds, except for those that it does. -/
theorem validateBaseline_eq_true_iff [DecidableEq F] {context : CertifiedScenarioBaseline F}
    (assembled : assembleCertifiedScenarioBaseline call = .ok context) :
    validateCertifiedScenarioBaselineReplay context call = .ok true ↔ call.Replayable := by
  obtain ⟨applicability, assessed, fingerprint, hashed, rfl⟩ :=
    assembleCertifiedScenarioBaseline_eq_ok.mp assembled
  set context := { call.draftContext applicability with
    contextFingerprint := fingerprint } with contextEq
  have again : (call.replayOf context).applicability = .ok applicability := assessed
  have unknowns : ((call.replayOf context).draftContext
        applicability).unknowns = context.unknowns ↔ call.Replayable := by
    refine (merged_filter_eq_iff fun text derived => ?_).trans ?_
    · rw [Bool.not_eq_false']
      exact any_startsWithId_of_derived derived
    · simp only [Bool.not_eq_false', BaselineCall.Replayable]
      refine forall₂_congr fun text _ => ?_
      rw [← BaselineCall.mem_derivedUnknowns_iff assessed,
        ← BaselineCall.any_startsWithId_iff assessed]
      rfl
  constructor
  · intro validated
    obtain ⟨replay, reassembled, same⟩ := bind_eq_ok.mp validated
    obtain ⟨other, reassessed, replayed, -, rfl⟩ :=
      assembleCertifiedScenarioBaseline_eq_ok.mp reassembled
    cases again.symm.trans reassessed
    refine unknowns.mp ?_
    rw [pure_eq_ok] at same
    simp only [CertifiedScenarioBaseline.same, Bool.and_eq_true, decide_eq_true_eq] at same
    exact same.1.1.2
  · intro replayable
    have drafts : (call.replayOf context).draftContext applicability =
        call.draftContext applicability := by
      ext1
      case unknowns => exact unknowns.mpr replayable
      case limitations =>
        exact limitations_again call.limitations applicability
      all_goals rfl
    have reassembled : assembleCertifiedScenarioBaseline
        (call.replayOf context) = .ok context :=
      assembleCertifiedScenarioBaseline_eq_ok.mpr
        ⟨applicability, again, fingerprint, by rw [drafts]; exact hashed,
          by rw [drafts]⟩
    rw [validateCertifiedScenarioBaselineReplay, reassembled]
    exact congrArg Except.ok context.same_refl

end Baselines

/-! ## Evidence sets -/

namespace EvidenceCall

/-- Some entry of the ledger is included. -/
def FindsEvidence (fromisoformat : FromIsoformat) (registry : EvidenceRegistry)
    (call : EvidenceCall F) : Prop :=
  ∃ entry ∈ call.ledger.entries, ∃ reasons,
    entryDecision fromisoformat registry call.query entry = .ok (.included, reasons)

/-- Where evidence is found, the caller does not add that none is. -/
def Replayable (fromisoformat : FromIsoformat) (registry : EvidenceRegistry)
    (call : EvidenceCall F) : Prop :=
  call.FindsEvidence fromisoformat registry → noEvidence ∉ strippedSet call.additionalUnknowns

/-- Records are included where an entry is. -/
theorem rows_included_ne_nil_iff {fromisoformat : FromIsoformat} {registry : EvidenceRegistry}
    {call : EvidenceCall F} {records : List ScenarioEvidenceRecord}
    (recorded : call.ledger.entries.mapM
      (recordEntry fromisoformat registry call.query) = .ok records) :
    rows .included records ≠ [] ↔ call.FindsEvidence fromisoformat registry := by
  have listedIff : rows .included records ≠ [] ↔
      ∃ record ∈ records, record.state = .included := by
    rw [ne_eq, List.eq_nil_iff_forall_not_mem]
    simp only [rows, mem_sortedBy, List.mem_filter, decide_eq_true_eq, not_forall, not_not]
  rw [listedIff]
  constructor
  · rintro ⟨record, present, included⟩
    obtain ⟨entry, listed, found⟩ := (mem_mapM_iff recorded).mp present
    obtain ⟨⟨state, reasons⟩, decided, made⟩ := recordEntry_eq_ok.mp found
    obtain ⟨fingerprint, -, rfl⟩ := makeRecord_eq_ok.mp made
    cases included
    exact ⟨entry, listed, reasons, decided⟩
  · rintro ⟨entry, listed, reasons, decided⟩
    obtain ⟨record, present, found⟩ := exists_ok_of_mapM recorded listed
    obtain ⟨decision, again, made⟩ := recordEntry_eq_ok.mp found
    obtain ⟨fingerprint, -, rfl⟩ := makeRecord_eq_ok.mp made
    cases decided.symm.trans again
    exact ⟨_, present, rfl⟩

end EvidenceCall

/-- The unknowns of an evidence set are merged again as they were exactly
where the caller does not add to found evidence that there is none. -/
theorem evidenceUnknowns_again_iff {included : List ScenarioEvidenceRecord} :
    sortedSet (strippedSet ((sortedSet (strippedSet values ++
          if included = [] then [noEvidence] else [])).filter fun text =>
            text ≠ noEvidence) ++
          if included = [] then [noEvidence] else []) =
        sortedSet (strippedSet values ++
          if included = [] then [noEvidence] else []) ↔
      (included ≠ [] → noEvidence ∉ strippedSet values) := by
  refine (merged_filter_eq_iff fun text derived => ?_).trans ?_
  · split_ifs at derived
    · rw [List.mem_singleton.mp derived]
      exact decide_eq_false (not_not.mpr rfl)
    · exact absurd derived List.not_mem_nil
  · by_cases none : included = []
    · simp [none]
    · simp only [none, ↓reduceIte, List.not_mem_nil, ne_eq, not_false_eq_true,
        forall_const, decide_not, Bool.not_eq_false', decide_eq_true_eq]
      constructor
      · exact fun clear listed => clear noEvidence listed rfl
      · rintro clear text listed rfl
        exact clear listed

/-- The limitations of an evidence set are merged again as they were. -/
theorem evidenceLimitations_again
    (values : List String) (included : List ScenarioEvidenceRecord) :
    sortedSet (strippedSet ((sortedSet (strippedSet values ++
          ((included.flatMap ScenarioEvidenceRecord.limitations).filter
            fun limitation => limitation ≠ "") ++ [descriptive])).filter
          fun text => text ≠ descriptive &&
            !included.any fun row => row.limitations.contains text) ++
          ((included.flatMap ScenarioEvidenceRecord.limitations).filter
            fun limitation => limitation ≠ "") ++ [descriptive]) =
      sortedSet (strippedSet values ++
        ((included.flatMap ScenarioEvidenceRecord.limitations).filter
          fun limitation => limitation ≠ "") ++ [descriptive]) := by
  have ofRow : ∀ text, (included.any fun row =>
        row.limitations.contains text) = true ↔
      text ∈ included.flatMap ScenarioEvidenceRecord.limitations := by
    intro text
    simp only [List.any_eq_true, List.contains_iff_mem, List.mem_flatMap]
  have derivedIff : ∀ text, text ∈
        ((included.flatMap ScenarioEvidenceRecord.limitations).filter
          fun limitation => limitation ≠ "") ++ [descriptive] ↔
      (text ∈ included.flatMap ScenarioEvidenceRecord.limitations ∧
        text ≠ "") ∨ text = descriptive := by
    simp only [List.mem_append, List.mem_filter, decide_eq_true_eq,
      List.mem_singleton, implies_true]
  have keptIff : ∀ text, (decide (text ≠ descriptive) &&
        !included.any fun row => row.limitations.contains text) = false ↔
      text = descriptive ∨ text ∈ included.flatMap ScenarioEvidenceRecord.limitations := by
    intro text
    rw [← ofRow, Bool.and_eq_false_iff, Bool.not_eq_false', decide_eq_false_iff_not, not_not]
  simp only [List.append_assoc]
  refine (merged_filter_eq_iff fun text derived => ?_).mpr ?_
  · rw [keptIff]
    rcases (derivedIff text).mp derived with ofRow | own
    · exact .inr ofRow.1
    · exact .inl own
  · intro text listed looks
    rw [derivedIff]
    rcases (keptIff text).mp looks with own | ofRow
    · exact .inr own
    · exact .inl ⟨ofRow, ne_empty_of_mem_strippedSet listed⟩

/-- An evidence set replays exactly when the caller does not add to found
evidence that there is none. -/
theorem validateEvidence_eq_true_iff
    {fromisoformat : FromIsoformat} {registry : EvidenceRegistry}
    {call : EvidenceCall F} {evidenceSet : ScenarioEvidenceSet}
    (retrieved : retrieveScenarioEvidence fromisoformat registry call = .ok evidenceSet) :
    validateScenarioEvidenceReplay fromisoformat registry evidenceSet call =
        .ok true ↔
      call.Replayable fromisoformat registry := by
  obtain ⟨acceptable, records, fingerprint, recorded, hashed, rfl⟩ :=
    retrieveScenarioEvidence_eq_ok.mp retrieved
  set evidenceSet := { call.draftSet records with
    evidenceSetFingerprint := fingerprint } with evidenceSetEq
  have again : (call.replayOf evidenceSet).Acceptable := { acceptable with }
  have unknowns : ((call.replayOf evidenceSet).draftSet records).unknowns =
      evidenceSet.unknowns ↔ call.Replayable fromisoformat registry :=
    evidenceUnknowns_again_iff.trans (by
      rw [EvidenceCall.rows_included_ne_nil_iff recorded]
      rfl)
  constructor
  · intro validated
    obtain ⟨replay, reretrieved, same⟩ := bind_eq_ok.mp validated
    obtain ⟨-, others, replayed, rerecorded, -, rfl⟩ :=
      retrieveScenarioEvidence_eq_ok.mp reretrieved
    cases recorded.symm.trans rerecorded
    refine unknowns.mp ?_
    rw [pure_eq_ok] at same
    simp only [ScenarioEvidenceSet.same, Bool.and_eq_true, decide_eq_true_eq] at same
    exact same.1.1.2
  · intro replayable
    have drafts : (call.replayOf evidenceSet).draftSet records =
        call.draftSet records := by
      ext1
      case unknowns => exact unknowns.mpr replayable
      case limitations =>
        exact evidenceLimitations_again call.additionalLimitations
          (EvidenceCall.rows .included records)
      all_goals rfl
    have reretrieved : retrieveScenarioEvidence fromisoformat registry
        (call.replayOf evidenceSet) = .ok evidenceSet :=
      retrieveScenarioEvidence_eq_ok.mpr
        ⟨again, records, fingerprint, recorded, by rw [drafts]; exact hashed,
          by rw [drafts]⟩
    rw [validateScenarioEvidenceReplay, reretrieved]
    exact congrArg Except.ok evidenceSet.same_refl

/-! ## The law -/

/-- Artefacts are accepted by their own checks as long as the caller adds no
text that looks derived: no unknown of a baseline that starts like one of a
promoted pattern without being one, and nothing missing where evidence was
found. -/
theorem artefacts_replay_iff {F : Type} [PyFloat F] [DecidableEq F] :
    (∀ (call : BaselineCall F) (context : CertifiedScenarioBaseline F),
      assembleCertifiedScenarioBaseline call = .ok context →
        (validateCertifiedScenarioBaselineReplay context call = .ok true ↔
          call.Replayable)) ∧
    (∀ (fromisoformat : FromIsoformat) (registry : EvidenceRegistry)
      (call : EvidenceCall F) (evidenceSet : ScenarioEvidenceSet),
      retrieveScenarioEvidence fromisoformat registry call = .ok evidenceSet →
        (validateScenarioEvidenceReplay fromisoformat registry evidenceSet
            call = .ok true ↔
          call.Replayable fromisoformat registry)) :=
  ⟨fun _ _ assembled => validateBaseline_eq_true_iff assembled,
    fun _ _ _ _ retrieved => validateEvidence_eq_true_iff retrieved⟩

/-! ## An unknown that looks derived -/

def sampleFingerprint : String :=
  String.ofList (List.replicate 64 'a')

theorem isHex64_sampleFingerprint : Sha256.isHex64 sampleFingerprint = true := by
  decide +kernel

/-- A contract about nothing, up to its fingerprint. -/
def sampleContract : ScenarioContract ℚ where
  scenarioId := "S"
  contractVersion := 1
  communityId := "STH"
  subjectId := "HOME-1"
  baselineSnapshotId := "B"
  baselineStatus := "CERTIFIED"
  baselineFingerprint := sampleFingerprint
  facts := []
  assumptions := []
  state := "READY"
  supersedesScenarioFingerprint := none
  policyVersion := "V1"
  contractFingerprint := ""
  distinctAssumptions := List.nodup_nil

/-- A promoted pattern, up to its fingerprint. -/
def samplePattern : GovernedPatternCandidate ℚ where
  patternId := "P1"
  domain := "PRICING"
  statement := ""
  discoveryPopulationId := "D"
  validationPopulationId := none
  replicationPopulationId := none
  discoveryEstimate := ⟨"D", 1, 1, .positive, 1, ""⟩
  validationEstimate := none
  replicationEstimate := none
  state := .promoted
  promotionState := .promoted
  reasonCodes := []
  limitations := []
  sourceLedgerFingerprint := sampleFingerprint
  candidateFingerprint := ""

/-- The caller adds an unknown of its own about the pattern, for which there
is no rule. -/
def sampleCall (contractFingerprint candidateFingerprint : String) : BaselineCall ℚ where
  scenarioContract := { sampleContract with contractFingerprint := contractFingerprint }
  baselineSnapshotId := "B"
  baselineStatus := "CERTIFIED"
  baselineFingerprint := sampleFingerprint
  baselineCommunityId := "STH"
  baselineSubjectId := "HOME-1"
  baselineFacts := []
  baselineFactSourceFingerprints := []
  promotedPatterns := [{ samplePattern with candidateFingerprint := candidateFingerprint }]
  applicabilityRules := []
  registry := baselineRegistry
  unknowns := ["P1:SEASONALITY"]
  limitations := []
  distinctFacts := List.nodup_nil
  distinctSources := List.nodup_nil

theorem writable_one : (PyValue.int 1 : PyValue ℚ).Writable := PyValue.writable_int (by decide)

theorem exists_sampleContract :
    ∃ fingerprint, validateScenarioContractReplay
      { sampleContract with contractFingerprint := fingerprint } = .ok true := by
  obtain ⟨fingerprint, hashed⟩ := PyValue.exists_sha256_iff.mpr
    (show sampleContract.payload.Writable by
      simp [ScenarioContract.payload, sampleContract, writable_one])
  refine ⟨fingerprint, bind_eq_ok.mpr ⟨fingerprint, hashed, ?_⟩⟩
  exact congrArg Except.ok (decide_eq_true rfl)

theorem exists_samplePattern :
    ∃ fingerprint, validateCandidateReplay
      { samplePattern with candidateFingerprint := fingerprint } = .ok true := by
  obtain ⟨fingerprint, hashed⟩ := PyValue.exists_sha256_iff.mpr
    (show samplePattern.payload.Writable by
      simp [GovernedPatternCandidate.payload, samplePattern,
        Community.Patterns.PatternEstimate.asdict, Community.Patterns.PatternEstimate.payload,
        Community.Patterns.optionalEstimate, writable_one])
  refine ⟨fingerprint, bind_eq_ok.mpr ⟨fingerprint, hashed, ?_⟩⟩
  exact congrArg Except.ok (decide_eq_true rfl)

theorem PatternApplicability.writable_asdict
    [PyFloat F] (applicability : PatternApplicability) :
    (PatternApplicability.asdict (F := F) applicability).Writable := by
  simp [asdict]

/-- The sample is assembled. -/
theorem exists_sampleContext :
    ∃ contractFingerprint candidateFingerprint context,
      assembleCertifiedScenarioBaseline
          (sampleCall contractFingerprint candidateFingerprint) =
        .ok context := by
  obtain ⟨contractFingerprint, contracted⟩ := exists_sampleContract
  obtain ⟨candidateFingerprint, replays⟩ := exists_samplePattern
  let call := sampleCall contractFingerprint candidateFingerprint
  let pattern := { samplePattern with candidateFingerprint := candidateFingerprint }
  have reconciled : call.reconcileContract = .ok () :=
    require_bind_eq_ok.mpr ⟨rfl, bind_eq_ok.mpr ⟨true, contracted,
      require_bind_eq_ok.mpr ⟨rfl, require_bind_eq_ok.mpr ⟨rfl,
        require_bind_eq_ok.mpr ⟨rfl, require_bind_eq_ok.mpr
          ⟨isHex64_sampleFingerprint, require_bind_eq_ok.mpr ⟨rfl, rfl⟩⟩⟩⟩⟩⟩⟩
  obtain ⟨answer, assessed⟩ : ∃ answer, call.assess pattern = .ok answer := by
    obtain ⟨fingerprint, hashed⟩ := PyValue.exists_sha256_iff.mpr
      (PatternApplicability.writable_payload (F := ℚ)
        (draftApplicability pattern (call.found pattern)))
    exact ⟨_, assessPatternApplicability_eq_ok.mpr
      ⟨⟨⟨rfl, rfl⟩, replays, isHex64_sampleFingerprint⟩,
        (by decide : "UNKNOWN" ∈ baselineRegistry.applicabilityStates),
        fingerprint, hashed, rfl⟩⟩
  have each : call.promotedPatterns.mapM call.assess = .ok [answer] := by
    change [pattern].mapM call.assess = _
    rw [List.mapM_cons, assessed]
    rfl
  have applicability : call.applicability =
      .ok (sortedBy PatternApplicability.patternId [answer]) :=
    bind_eq_ok.mpr ⟨(), reconciled, require_bind_eq_ok.mpr ⟨rfl,
      require_bind_eq_ok.mpr ⟨rfl, require_bind_eq_ok.mpr ⟨List.nodup_nil,
        bind_eq_ok.mpr ⟨[answer], each,
          require_bind_eq_ok.mpr ⟨by simp [sortedBy], bind_eq_ok.mpr ⟨(), rfl, rfl⟩⟩⟩⟩⟩⟩⟩
  obtain ⟨fingerprint, hashed⟩ := PyValue.exists_sha256_iff.mpr
    (show (call.draftContext
        (sortedBy PatternApplicability.patternId [answer])).payload.Writable by
      have assumptions : sortedBy Prod.fst call.assumptions = [] := rfl
      have facts : sortedBy Prod.fst call.baselineFacts = [] := rfl
      simp [CertifiedScenarioBaseline.payload, BaselineCall.draftContext,
        facts, assumptions, PyValue.pairs, PatternApplicability.writable_asdict])
  exact ⟨contractFingerprint, candidateFingerprint, _,
    assembleCertifiedScenarioBaseline_eq_ok.mpr ⟨_, applicability, fingerprint, hashed, rfl⟩⟩

/-- The unknown of the caller is lost when the sample is replayed. -/
theorem sampleCall_not_replayable (contractFingerprint candidateFingerprint : String) :
    ¬ (sampleCall contractFingerprint candidateFingerprint).Replayable := by
  intro replayable
  have listed : "P1:SEASONALITY" ∈ strippedSet ["P1:SEASONALITY"] := by
    decide +kernel
  obtain ⟨pattern, single, -, reason, given, same⟩ :=
    replayable "P1:SEASONALITY" listed ⟨_, List.mem_singleton_self _,
        (by decide : startsWithId "P1" "P1:SEASONALITY" = true)⟩
  cases List.mem_singleton.mp single
  cases List.mem_singleton.mp given
  exact absurd same (by decide : "P1:SEASONALITY" ≠
    unknownItem "P1" "NO_GOVERNED_APPLICABILITY_RULE")

/-- A context that its own check does not accept. -/
theorem context_without_replay :
    ∃ (call : BaselineCall ℚ) (context : CertifiedScenarioBaseline ℚ),
      call.registry = baselineRegistry ∧ call.unknowns = ["P1:SEASONALITY"] ∧
          assembleCertifiedScenarioBaseline call = .ok context ∧
            validateCertifiedScenarioBaselineReplay context call ≠
              .ok true := by
  obtain ⟨contractFingerprint, candidateFingerprint, context, assembled⟩ :=
    exists_sampleContext
  refine ⟨_, context, rfl, rfl, assembled, fun validated => ?_⟩
  exact sampleCall_not_replayable _ _
    ((validateBaseline_eq_true_iff assembled).mp validated)

end SanTanHeights.Scenario
