import SanTanHeights.Community.Ledgers

/-!
# Entries of the history

What `make_temporal_entry` accepts and makes, and ledgers of entries whose
facts are texts.
-/

namespace SanTanHeights.Community.History

open Foundation Foundation.Json Foundation.Sorting Foundation.Outcome Shared

/-! ## Made entries -/

namespace TemporalLedgerEntry

/-- The entry that is made, up to its fingerprint. -/
def tidied (given : TemporalLedgerEntry) : TemporalLedgerEntry :=
  { given with
    sourceFingerprints := sortedSet given.sourceFingerprints
    evidenceFingerprints := sortedSet given.evidenceFingerprints
    limitations := sortedSet given.limitations }

/-- What `make_temporal_entry` asks of its arguments. -/
structure Acceptable (fromisoformat : FromIsoformat) (registry : Registry)
    (given : TemporalLedgerEntry) : Prop where
  identified : ∀ text ∈ [given.entryId, given.communityId, given.scopeId,
    given.factKey], Text.isBlank text = false
  entryType : given.entryType ∈ registry.entryTypes
  scope : given.scope ∈ registry.scopes
  truthState : given.truthState ∈ registry.truthStates
  times : ∃ valid known recorded,
    fromisoformat given.validFrom = some (some valid) ∧
      fromisoformat given.knownAt = some (some known) ∧
        fromisoformat given.recordedAt = some (some recorded) ∧
          known ≤ recorded ∧ ∀ text ∈ given.validTo, ∃ ended,
              fromisoformat text = some (some ended) ∧ valid ≤ ended
  lineage : ∀ fingerprint ∈ sortedSet given.sourceFingerprints ++
      sortedSet given.evidenceFingerprints,
    Sha256.isHex64 fingerprint = true
  links : ∀ link ∈ [given.previousEntryFingerprint,
      given.originatingDeltaFingerprint, given.refreshPlanFingerprint,
      given.refreshResultFingerprint], ∀ fingerprint ∈ link,
    Sha256.isHex64 fingerprint = true
  corrects : given.entryType = "CORRECTION" → given.previousEntryFingerprint ≠ none

end TemporalLedgerEntry

theorem validateOptionalFp_eq_ok {value : Option String} {label : String} {result : Unit} :
    validateOptionalFp value label = .ok result ↔
      ∀ fingerprint ∈ value, Sha256.isHex64 fingerprint = true := by
  cases value with
  | none => simp [validateOptionalFp]
  | some fingerprint => simp [validateOptionalFp, validateFp]

theorem validateValidTo_eq_ok
    {fromisoformat : FromIsoformat} {valid : Int} {validTo : Option String} {result : Unit} :
    validateValidTo fromisoformat valid validTo = .ok result ↔
      ∀ text ∈ validTo, ∃ ended, fromisoformat text = some (some ended) ∧ valid ≤ ended := by
  cases validTo with
  | none => simp [validateValidTo]
  | some text => simp [validateValidTo, bind_eq_ok]

theorem validateFps_eq_ok {fingerprints : List String} {label : String} {results : List Unit} :
    fingerprints.mapM (fun fingerprint => validateFp fingerprint label) =
        .ok results ↔
      (∀ fingerprint ∈ fingerprints, Sha256.isHex64 fingerprint = true) ∧
        fingerprints.map (fun _ => ()) = results :=
  mapM_eq_ok_map fun fingerprint result => by simp [validateFp]

theorem makeTemporalEntry_eq_ok {fromisoformat : FromIsoformat} {registry : Registry}
    {given entry : TemporalLedgerEntry} :
    makeTemporalEntry fromisoformat registry given = .ok entry ↔
      given.Acceptable fromisoformat registry ∧
        ∃ fingerprint, hash (.obj given.tidied.payload) = .ok fingerprint ∧
          { given.tidied with entryFingerprint := fingerprint } = entry := by
  simp only [makeTemporalEntry, bind_eq_ok, require_eq_ok, exists_const,
    parseTs_eq_ok, validateValidTo_eq_ok, validateFps_eq_ok,
    validateOptionalFp_eq_ok, pure_eq_ok]
  constructor
  · rintro ⟨identified, entryType, scope, truthState, valid, validParsed,
      known, knownParsed, recorded, recordedParsed, inOrder, ended, _,
      ⟨lineage, _⟩, previous, delta, plan, result, corrects, made⟩
    refine ⟨⟨identified, entryType, scope, truthState,
      ⟨valid, known, recorded, validParsed, knownParsed, recordedParsed,
        inOrder, ended⟩, lineage, ?_, ?_⟩, made⟩
    · simp only [List.forall_mem_cons, List.not_mem_nil, IsEmpty.forall_iff, implies_true, and_true]
      exact ⟨previous, delta, plan, result⟩
    · exact fun corrected missing => corrects ⟨corrected, missing⟩
  · rintro ⟨acceptable, made⟩
    obtain ⟨valid, known, recorded, validParsed, knownParsed, recordedParsed,
      inOrder, ended⟩ := acceptable.times
    have links := acceptable.links
    simp only [List.forall_mem_cons, List.not_mem_nil, IsEmpty.forall_iff,
      implies_true, and_true] at links
    exact ⟨acceptable.identified, acceptable.entryType, acceptable.scope,
      acceptable.truthState, valid, validParsed, known, knownParsed, recorded,
      recordedParsed, inOrder, ended, _, ⟨acceptable.lineage, rfl⟩, links.1,
      links.2.1, links.2.2.1, links.2.2.2,
      fun corrected => acceptable.corrects corrected.1 corrected.2, made⟩

/-- The fingerprint of a made entry is that of its payload. -/
theorem hash_of_makeTemporalEntry {fromisoformat : FromIsoformat} {registry : Registry}
    {given entry : TemporalLedgerEntry}
    (made : makeTemporalEntry fromisoformat registry given = .ok entry) :
    hash (.obj entry.payload) = .ok entry.entryFingerprint := by
  obtain ⟨_, fingerprint, hashed, rfl⟩ := makeTemporalEntry_eq_ok.mp made
  exact hashed

/-! ## Texts -/

namespace TemporalLedgerEntry

theorem textual_payload {entry : TemporalLedgerEntry} (textual : Textual entry.factValue) :
    Textual (.obj entry.payload) := by
  simp [payload, textual_obj, IsTagged, textual]

theorem textual_asdict {entry : TemporalLedgerEntry} (textual : Textual entry.factValue) :
    Textual entry.asdict := by
  simp [asdict, payload, textual_obj, IsTagged, textual]

end TemporalLedgerEntry

theorem exists_hash_of_textual {value : Json} (textual : Textual value) :
    ∃ fingerprint, hash value = .ok fingerprint := by
  obtain ⟨fingerprint, hashed, _⟩ := textual.exists_sha256Dumps
  exact ⟨fingerprint, hashed⟩

theorem TemporalLedger.textual_payload {ledger : TemporalLedger}
    (textual : ∀ entry ∈ ledger.entries, Textual entry.factValue) :
    Textual ledger.payload := by
  have entries : ∀ entry ∈ ledger.entries, Textual entry.asdict :=
    fun entry listed =>
      TemporalLedgerEntry.textual_asdict (textual entry listed)
  simpa [payload, textual_obj, IsTagged] using entries

theorem HistoryView.textual_payload {view : HistoryView}
    (textual : ∀ entry ∈ view.entries, Textual entry.factValue) :
    Textual view.payload := by
  have entries : ∀ entry ∈ view.entries, Textual entry.asdict :=
    fun entry listed =>
      TemporalLedgerEntry.textual_asdict (textual entry listed)
  simpa [payload, textual_obj, IsTagged] using entries

/-- A ledger of textual facts can be built. -/
theorem exists_buildTemporalLedger
    {ledgerId communityId : String} {entries : List TemporalLedgerEntry}
    (identified : Text.isBlank ledgerId = false ∧ Text.isBlank communityId = false)
    (community : ∀ entry ∈ entries, entry.communityId = communityId)
    (distinct : (entries.map TemporalLedgerEntry.entryId).Nodup)
    (textual : ∀ entry ∈ entries, Textual entry.factValue) :
    ∃ ledger, buildTemporalLedger ledgerId communityId entries = .ok ledger := by
  have sorted : ∀ entry ∈ sortedBy TemporalLedgerEntry.sortKey entries,
      Textual entry.factValue := fun entry listed =>
    textual entry ((mem_sortedBy _ _ _).mp listed)
  obtain ⟨fingerprint, hashed⟩ := exists_hash_of_textual
    (@TemporalLedger.textual_payload
      ⟨ledgerId, communityId, sortedBy TemporalLedgerEntry.sortKey entries, ""⟩ sorted)
  simp only [buildTemporalLedger, bind_eq_ok, require_eq_ok, exists_const, pure_eq_ok]
  exact ⟨_, identified, community, distinct, fingerprint, hashed, rfl⟩

/-- A textual fact that is accepted makes an entry. -/
theorem exists_makeTemporalEntry {fromisoformat : FromIsoformat} {registry : Registry}
    {given : TemporalLedgerEntry} (acceptable : given.Acceptable fromisoformat registry)
    (textual : Textual given.factValue) :
    ∃ fingerprint, makeTemporalEntry fromisoformat registry given =
      .ok { given.tidied with entryFingerprint := fingerprint } := by
  obtain ⟨fingerprint, hashed⟩ := exists_hash_of_textual
    (@TemporalLedgerEntry.textual_payload given.tidied textual)
  exact ⟨fingerprint, makeTemporalEntry_eq_ok.mpr ⟨acceptable, fingerprint, hashed, rfl⟩⟩

/-! ## Bare entries -/

/-- An entry about the community whose fact is a text. -/
def bareEntry (entryId validFrom knownAt fact : String) : TemporalLedgerEntry where
  entryId := entryId
  communityId := "STH"
  entryType := "SNAPSHOT"
  scope := "COMMUNITY"
  scopeId := "STH"
  factKey := "state"
  factValue := .str fact
  validFrom := validFrom
  validTo := none
  knownAt := knownAt
  recordedAt := knownAt
  truthState := "ASSERTED"
  sourceFingerprints := []
  previousEntryFingerprint := none
  originatingDeltaFingerprint := none
  refreshPlanFingerprint := none
  refreshResultFingerprint := none
  evidenceFingerprints := []
  limitations := []
  entryFingerprint := ""

/-- What a bare entry asks holds when its times can be read. -/
theorem acceptable_bareEntry {fromisoformat : FromIsoformat}
    {entryId validFrom knownAt fact : String} {valid known : Int}
    (identified : Text.isBlank entryId = false)
    (validParsed : fromisoformat validFrom = some (some valid))
    (knownParsed : fromisoformat knownAt = some (some known)) :
    (bareEntry entryId validFrom knownAt fact).Acceptable fromisoformat registry := by
  have others : Text.isBlank "STH" = false ∧ Text.isBlank "state" = false := by decide
  exact
    { identified := by simpa [bareEntry] using ⟨identified, others⟩
      entryType := List.mem_cons_self
      scope := List.mem_cons_of_mem _ List.mem_cons_self
      truthState := List.mem_cons_self
      times := ⟨valid, known, known, validParsed, knownParsed, knownParsed,
        le_rfl, fun text missing => nomatch missing⟩
      lineage := fun fingerprint listed => absurd listed List.not_mem_nil
      links := by simp [bareEntry]
      corrects := by simp [bareEntry] }

/-- A bare entry is made when its times can be read. -/
theorem exists_bareEntry {fromisoformat : FromIsoformat}
    {entryId validFrom knownAt fact : String} {valid known : Int}
    (identified : Text.isBlank entryId = false)
    (validParsed : fromisoformat validFrom = some (some valid))
    (knownParsed : fromisoformat knownAt = some (some known)) :
    ∃ fingerprint, makeTemporalEntry fromisoformat History.registry
        (bareEntry entryId validFrom knownAt fact) =
      .ok { bareEntry entryId validFrom knownAt fact with
        entryFingerprint := fingerprint } :=
  exists_makeTemporalEntry (acceptable_bareEntry identified validParsed knownParsed) (textual_str _)

end SanTanHeights.Community.History
