import SanTanHeights.Community.Snapshots
import SanTanHeights.Shared.Writable

/-!
# The history of a community

An append-only ledger of entries with two clocks: when a fact is valid, and
when it was learned.
-/

namespace SanTanHeights.Community.History

open Foundation Foundation.Json Foundation.Sorting Foundation.Outcome Shared

/-- `_hash`. -/
def hash (value : Json) : Except String String :=
  sha256Dumps value

/-- `_validate_fp`. -/
def validateFp (value label : String) : Except String Unit :=
  require (Sha256.isHex64 value = true) (label ++ " must be lowercase sha256")

/-- `tuple(sorted(set(values)))`. -/
def sortedSet (values : List String) : List String :=
  sortedBy id values.dedup

@[simp] theorem mem_sortedSet {text : String} {values : List String} :
    text ∈ sortedSet values ↔ text ∈ values := by
  simp [sortedSet]

theorem nodup_sortedSet (values : List String) : (sortedSet values).Nodup :=
  (sortedBy_perm id values.dedup).nodup_iff.mpr (List.nodup_dedup values)

/-- Values listed in any order, with any repetition, have one sorted set. -/
theorem sortedSet_congr {values others : List String}
    (same : ∀ text, text ∈ values ↔ text ∈ others) :
    sortedSet values = sortedSet others := by
  refine sortedBy_eq_of_perm ?_ fun _ _ _ _ equal => equal
  refine (List.perm_ext_iff_of_nodup (List.nodup_dedup values)
    (List.nodup_dedup others)).mpr fun text => ?_
  rw [List.mem_dedup, List.mem_dedup, same]

@[simp] theorem serializable_texts (values : List String) : Serializable (texts values) := by
  simp [texts]

/-! ## The registry -/

inductive QueryMode where
  | trueNow
  | trueThen
  | knownThen
  | knownNow
  deriving DecidableEq, Repr

def QueryMode.code : QueryMode → String
  | trueNow => "TRUE_NOW"
  | trueThen => "TRUE_THEN"
  | knownThen => "KNOWN_THEN"
  | knownNow => "KNOWN_NOW"

/-- What is read of a history registry. -/
structure Registry where
  entryTypes : List String
  scopes : List String
  truthStates : List String
  queryModes : List QueryMode

/-- `m13-004-temporal-history-v1.0.yaml`. -/
def registry : Registry where
  entryTypes :=
    ["SNAPSHOT", "DELTA", "REFRESH_PLAN", "REFRESH_RESULT", "CORRECTION",
      "CONFLICT", "VERSION_TRANSITION"]
  scopes := ["PROPERTY", "COMMUNITY", "MANIFEST", "INTELLIGENCE"]
  truthStates := ["ASSERTED", "SUPERSEDED", "CORRECTED", "CONFLICTED", "RESOLVED"]
  queryModes := [.trueNow, .trueThen, .knownThen, .knownNow]

/-! ## Entries -/

structure TemporalLedgerEntry where
  entryId : String
  communityId : String
  entryType : String
  scope : String
  scopeId : String
  factKey : String
  factValue : Json
  validFrom : String
  validTo : Option String
  knownAt : String
  recordedAt : String
  truthState : String
  sourceFingerprints : List String
  previousEntryFingerprint : Option String
  originatingDeltaFingerprint : Option String
  refreshPlanFingerprint : Option String
  refreshResultFingerprint : Option String
  evidenceFingerprints : List String
  limitations : List String
  entryFingerprint : String
  deriving Repr

namespace TemporalLedgerEntry

/-- What the fingerprint of an entry covers. -/
def payload (entry : TemporalLedgerEntry) : List (String × Json) :=
  [("entry_id", .str entry.entryId), ("community_id", .str entry.communityId),
    ("entry_type", .str entry.entryType), ("scope", .str entry.scope),
    ("scope_id", .str entry.scopeId), ("fact_key", .str entry.factKey),
    ("fact_value", entry.factValue), ("valid_from", .str entry.validFrom),
    ("valid_to", .ofOptional entry.validTo), ("known_at", .str entry.knownAt),
    ("recorded_at", .str entry.recordedAt), ("truth_state", .str entry.truthState),
    ("source_fingerprints", texts entry.sourceFingerprints),
    ("previous_entry_fingerprint", .ofOptional entry.previousEntryFingerprint),
    ("originating_delta_fingerprint", .ofOptional entry.originatingDeltaFingerprint),
    ("refresh_plan_fingerprint", .ofOptional entry.refreshPlanFingerprint),
    ("refresh_result_fingerprint", .ofOptional entry.refreshResultFingerprint),
    ("evidence_fingerprints", texts entry.evidenceFingerprints),
    ("limitations", texts entry.limitations)]

/-- `asdict(entry)`. -/
def asdict (entry : TemporalLedgerEntry) : Json :=
  .obj (entry.payload ++ [("entry_fingerprint", .str entry.entryFingerprint)])

/-- `_entry_sort_key`. -/
def sortKey (entry : TemporalLedgerEntry) : String ×ₗ String ×ₗ String ×ₗ String :=
  toLex (entry.validFrom, toLex (entry.knownAt, toLex (entry.entryId, entry.entryFingerprint)))

end TemporalLedgerEntry

/-- A fingerprint that may be missing. -/
def validateOptionalFp (value : Option String) (label : String) : Except String Unit :=
  match value with
  | none => .ok ()
  | some fingerprint => validateFp fingerprint label

/-- `valid_to`, where there is one, is not before `valid_from`. -/
def validateValidTo (fromisoformat : FromIsoformat) (valid : Int) (validTo : Option String) :
    Except String Unit :=
  match validTo with
  | none => .ok ()
  | some text => do
      let until_ ← parseTs fromisoformat text "valid_to"
      require (valid ≤ until_) "valid_to cannot precede valid_from"

/-- `make_temporal_entry`; the fingerprint of the argument is not read. -/
def makeTemporalEntry (fromisoformat : FromIsoformat) (registry : Registry)
    (given : TemporalLedgerEntry) : Except String TemporalLedgerEntry := do
  require (∀ text ∈ [given.entryId, given.communityId, given.scopeId,
      given.factKey], Text.isBlank text = false)
    "entry identity, community, scope_id, and fact_key are required"
  require (given.entryType ∈ registry.entryTypes)
    "unsupported temporal entry type"
  require (given.scope ∈ registry.scopes) "unsupported temporal entry scope"
  require (given.truthState ∈ registry.truthStates) "unsupported truth state"
  let valid ← parseTs fromisoformat given.validFrom "valid_from"
  let known ← parseTs fromisoformat given.knownAt "known_at"
  let recorded ← parseTs fromisoformat given.recordedAt "recorded_at"
  require (known ≤ recorded) "recorded_at cannot precede known_at"
  validateValidTo fromisoformat valid given.validTo
  let entry := { given with
    sourceFingerprints := sortedSet given.sourceFingerprints
    evidenceFingerprints := sortedSet given.evidenceFingerprints
    limitations := sortedSet given.limitations }
  let _ ← (entry.sourceFingerprints ++ entry.evidenceFingerprints).mapM
    fun fingerprint => validateFp fingerprint "temporal lineage fingerprint"
  validateOptionalFp entry.previousEntryFingerprint "previous entry fingerprint"
  validateOptionalFp entry.originatingDeltaFingerprint "originating delta fingerprint"
  validateOptionalFp entry.refreshPlanFingerprint "refresh plan fingerprint"
  validateOptionalFp entry.refreshResultFingerprint "refresh result fingerprint"
  require (¬ (entry.entryType = "CORRECTION" ∧ entry.previousEntryFingerprint = none))
    "correction requires previous entry fingerprint"
  let fingerprint ← hash (.obj entry.payload)
  return { entry with entryFingerprint := fingerprint }

/-! ## The ledger -/

structure TemporalLedger where
  ledgerId : String
  communityId : String
  entries : List TemporalLedgerEntry
  ledgerFingerprint : String
  deriving Repr

/-- What the fingerprint of a ledger covers. -/
def TemporalLedger.payload (ledger : TemporalLedger) : Json :=
  .obj [("ledger_id", .str ledger.ledgerId), ("community_id", .str ledger.communityId),
      ("entries", .arr (ledger.entries.map TemporalLedgerEntry.asdict))]

/-- `build_temporal_ledger`. -/
def buildTemporalLedger (ledgerId communityId : String) (entries : List TemporalLedgerEntry) :
    Except String TemporalLedger := do
  require (Text.isBlank ledgerId = false ∧ Text.isBlank communityId = false)
    "ledger_id and community_id required"
  require (∀ entry ∈ entries, entry.communityId = communityId)
    "ledger community mismatch"
  require ((entries.map TemporalLedgerEntry.entryId).Nodup)
    "duplicate temporal entry ids prohibited"
  let ledger : TemporalLedger :=
    { ledgerId, communityId
      entries := sortedBy TemporalLedgerEntry.sortKey entries
      ledgerFingerprint := "" }
  let fingerprint ← hash ledger.payload
  return { ledger with ledgerFingerprint := fingerprint }

/-- What `append_entries` asks of one new entry. -/
def admitEntry (ledger : TemporalLedger) (entry : TemporalLedgerEntry) :
    Except String Unit := do
  require (entry.communityId = ledger.communityId) "ledger community mismatch"
  require (∀ fingerprint ∈ entry.previousEntryFingerprint,
      fingerprint ∈ ledger.entries.map TemporalLedgerEntry.entryFingerprint)
    "correction/supersession link must reference existing immutable history"

/-- `append_entries`. -/
def appendEntries (ledger : TemporalLedger) (newEntries : List TemporalLedgerEntry) :
    Except String TemporalLedger := do
  require (∀ entry ∈ newEntries,
      entry.entryId ∉ ledger.entries.map TemporalLedgerEntry.entryId)
    "append-only ledger rejects duplicate entry ids"
  let _ ← newEntries.mapM (admitEntry ledger)
  buildTemporalLedger ledger.ledgerId ledger.communityId (ledger.entries ++ newEntries)

/-- `validate_ledger_replay`. -/
def validateLedgerReplay (ledger : TemporalLedger) : Except String Bool := do
  let fingerprint ← hash ledger.payload
  return decide (fingerprint = ledger.ledgerFingerprint)

/-- The arguments of `append_correction`. -/
structure Correction where
  registry : Registry
  correctionId : String
  targetEntryFingerprint : String
  correctedValue : Json
  validFrom : String
  knownAt : String
  recordedAt : String
  evidenceFingerprints : List String
  limitations : List String

/-- The entry that corrects another. -/
def Correction.entry (correction : Correction) (ledger : TemporalLedger)
    (target : TemporalLedgerEntry) : TemporalLedgerEntry where
  entryId := correction.correctionId
  communityId := ledger.communityId
  entryType := "CORRECTION"
  scope := target.scope
  scopeId := target.scopeId
  factKey := target.factKey
  factValue := correction.correctedValue
  validFrom := correction.validFrom
  validTo := none
  knownAt := correction.knownAt
  recordedAt := correction.recordedAt
  truthState := "CORRECTED"
  sourceFingerprints := [target.entryFingerprint]
  previousEntryFingerprint := some target.entryFingerprint
  originatingDeltaFingerprint := none
  refreshPlanFingerprint := none
  refreshResultFingerprint := none
  evidenceFingerprints := correction.evidenceFingerprints
  limitations := correction.limitations
  entryFingerprint := ""

/-- The only item of a list. -/
def theOnly {α : Type} : List α → Option α
  | [item] => some item
  | _ => none

/-- `append_correction`. -/
def appendCorrection (fromisoformat : FromIsoformat) (ledger : TemporalLedger)
    (correction : Correction) : Except String TemporalLedger := do
  let target ← orRaise (theOnly (ledger.entries.filter fun entry =>
      entry.entryFingerprint = correction.targetEntryFingerprint))
    "correction target must resolve exactly once"
  let entry ← makeTemporalEntry fromisoformat correction.registry
    (correction.entry ledger target)
  appendEntries ledger [entry]

/-! ## Views -/

structure HistoryQuery where
  mode : QueryMode
  scope : String
  scopeId : String
  asOfValidTime : Option String
  asOfKnowledgeTime : Option String
  deriving DecidableEq, Repr

structure HistoryView where
  query : HistoryQuery
  communityId : String
  entries : List TemporalLedgerEntry
  viewFingerprint : String
  deriving Repr

/-- What the fingerprint of a view covers. -/
def HistoryView.payload (view : HistoryView) : Json :=
  .obj [("mode", .str view.query.mode.code), ("community_id", .str view.communityId),
      ("scope", .str view.query.scope), ("scope_id", .str view.query.scopeId),
      ("as_of_valid_time", .ofOptional view.query.asOfValidTime),
      ("as_of_knowledge_time", .ofOptional view.query.asOfKnowledgeTime),
      ("entries", .arr (view.entries.map TemporalLedgerEntry.asdict))]

/-- A cutoff, where the argument is neither missing nor empty. -/
def parseCutoff (fromisoformat : FromIsoformat) (value : Option String) (label : String) :
    Except String (Option Int) :=
  match value with
  | none => .ok none
  | some text =>
      if text = "" then .ok none
      else (parseTs fromisoformat text label).map some

/-- `visible`, given the times of an entry. -/
def isVisible (mode : QueryMode) (validCutoff knowledgeCutoff : Option Int)
    (valid known : Int) : Bool :=
  match mode with
  | .trueNow => true
  | .trueThen => validCutoff.any fun cutoff => valid ≤ cutoff
  | .knownThen =>
      (validCutoff.any fun cutoff => valid ≤ cutoff) &&
        knowledgeCutoff.any fun cutoff => known ≤ cutoff
  | .knownNow => true

/-- An entry, where it is visible. -/
def showEntry (fromisoformat : FromIsoformat) (mode : QueryMode)
    (validCutoff knowledgeCutoff : Option Int) (entry : TemporalLedgerEntry) :
    Except String (Option TemporalLedgerEntry) := do
  let valid ← parseTs fromisoformat entry.validFrom "entry valid_from"
  let known ← parseTs fromisoformat entry.knownAt "entry known_at"
  return if isVisible mode validCutoff knowledgeCutoff valid known then
    some entry else none

/-- The entries of a ledger about the subject of a query. -/
def HistoryQuery.rows (query : HistoryQuery) (ledger : TemporalLedger) :
    List TemporalLedgerEntry :=
  ledger.entries.filter fun entry =>
    entry.scope = query.scope ∧ entry.scopeId = query.scopeId

/-- `historical_view`. -/
def historicalView (fromisoformat : FromIsoformat) (registry : Registry)
    (ledger : TemporalLedger) (query : HistoryQuery) :
    Except String HistoryView := do
  require (query.mode ∈ registry.queryModes) "unsupported historical query mode"
  let replays ← validateLedgerReplay ledger
  require (replays = true) "temporal ledger is nonreproducible"
  let validCutoff ← parseCutoff fromisoformat query.asOfValidTime "as_of_valid_time"
  let knowledgeCutoff ← parseCutoff fromisoformat query.asOfKnowledgeTime "as_of_knowledge_time"
  require (¬ (query.mode ∈ [QueryMode.trueThen, .knownThen] ∧
      validCutoff = none)) (query.mode.code ++ " requires as_of_valid_time")
  require (¬ (query.mode = .knownThen ∧ knowledgeCutoff = none))
    "KNOWN_THEN requires as_of_knowledge_time"
  let shown ← (query.rows ledger).mapM
    (showEntry fromisoformat query.mode validCutoff knowledgeCutoff)
  let view : HistoryView :=
    { query, communityId := ledger.communityId
      entries := sortedBy TemporalLedgerEntry.sortKey (shown.filterMap id)
      viewFingerprint := "" }
  let fingerprint ← hash view.payload
  return { view with viewFingerprint := fingerprint }

end SanTanHeights.Community.History
