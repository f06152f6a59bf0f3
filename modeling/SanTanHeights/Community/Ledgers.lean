import SanTanHeights.Community.Acceptance
import SanTanHeights.Community.History

/-!
# Ledgers that are only appended to

A built ledger is determined by its entries, whatever the order in which they
were appended, and what was known at a time is not changed by what is learned
later.
-/

namespace SanTanHeights.Community.History

open Foundation Foundation.Json Foundation.Sorting Foundation.Outcome

/-! ## Built ledgers -/

namespace TemporalLedger

/-- What `build_temporal_ledger` makes. -/
structure Built (ledger : TemporalLedger) : Prop where
  identified : Text.isBlank ledger.ledgerId = false ∧ Text.isBlank ledger.communityId = false
  community : ∀ entry ∈ ledger.entries, entry.communityId = ledger.communityId
  distinct : (ledger.entries.map TemporalLedgerEntry.entryId).Nodup
  ordered : ledger.entries.Pairwise fun left right =>
    left.sortKey ≤ right.sortKey
  hashed : hash ledger.payload = .ok ledger.ledgerFingerprint

/-- What is the same in a ledger that another one grew from. -/
structure Extends (ledger next : TemporalLedger) : Prop where
  ledgerId : next.ledgerId = ledger.ledgerId
  communityId : next.communityId = ledger.communityId
  kept : ∀ entry ∈ ledger.entries, entry ∈ next.entries

theorem Extends.refl (ledger : TemporalLedger) : ledger.Extends ledger :=
  ⟨rfl, rfl, fun _ listed => listed⟩

theorem Extends.trans {first second third : TemporalLedger}
    (before : first.Extends second) (after : second.Extends third) :
    first.Extends third where
  ledgerId := after.ledgerId.trans before.ledgerId
  communityId := after.communityId.trans before.communityId
  kept entry listed := after.kept entry (before.kept entry listed)

end TemporalLedger

variable {ledger next : TemporalLedger} {newEntries : List TemporalLedgerEntry}
  {query : HistoryQuery}

theorem buildTemporalLedger_eq_ok
    {ledgerId communityId : String} {entries : List TemporalLedgerEntry} :
    buildTemporalLedger ledgerId communityId entries = .ok ledger ↔
      ledger.Built ∧ ledger.ledgerId = ledgerId ∧
        ledger.communityId = communityId ∧
          ledger.entries = sortedBy TemporalLedgerEntry.sortKey entries := by
  simp only [buildTemporalLedger, bind_eq_ok, require_eq_ok, exists_const, pure_eq_ok]
  constructor
  · rintro ⟨identified, community, distinct, fingerprint, hashed, rfl⟩
    refine ⟨?_, rfl, rfl, rfl⟩
    exact
      { identified := identified
        community := fun entry listed =>
          community entry ((mem_sortedBy _ _ _).mp listed)
        distinct := ((sortedBy_perm _ entries).map
          TemporalLedgerEntry.entryId).nodup_iff.mpr distinct
        ordered := pairwise_sortedBy _ _
        hashed := hashed }
  · rintro ⟨built, rfl, rfl, sorted⟩
    have permuted := sortedBy_perm TemporalLedgerEntry.sortKey entries
    rw [← sorted] at permuted
    refine ⟨built.identified, ?_, ?_, ledger.ledgerFingerprint, ?_, ?_⟩
    · exact fun entry listed =>
        built.community entry (permuted.mem_iff.mpr listed)
    · exact (permuted.map TemporalLedgerEntry.entryId).nodup_iff.mp built.distinct
    · rw [← sorted]
      exact built.hashed
    · rw [← sorted]

namespace TemporalLedger

/-- A built ledger is what is built of its entries. -/
theorem Built.rebuilds (built : ledger.Built) :
    buildTemporalLedger ledger.ledgerId ledger.communityId ledger.entries = .ok ledger :=
  buildTemporalLedger_eq_ok.mpr ⟨built, rfl, rfl, (sortedBy_eq_self built.ordered).symm⟩

theorem Built.replays (built : ledger.Built) : validateLedgerReplay ledger = .ok true := by
  rw [validateLedgerReplay, built.hashed]
  change Except.ok (decide (_ = _)) = _
  rw [decide_eq_true rfl]

/-- Entries of a built ledger with one key are one entry. -/
theorem Built.eq_of_sortKey_eq (built : ledger.Built) {left right : TemporalLedgerEntry}
    (leftListed : left ∈ ledger.entries) (rightListed : right ∈ ledger.entries)
    (equal : left.sortKey = right.sortKey) :
    left = right := by
  simp only [TemporalLedgerEntry.sortKey, EmbeddingLike.apply_eq_iff_eq, Prod.mk.injEq] at equal
  exact List.inj_on_of_nodup_map built.distinct leftListed rightListed equal.2.2.1

/-- The entries determine a built ledger. -/
theorem Built.eq_of_mem_iff {other : TemporalLedger}
    (built : ledger.Built) (otherBuilt : other.Built)
    (ledgerId : ledger.ledgerId = other.ledgerId)
    (communityId : ledger.communityId = other.communityId)
    (same : ∀ entry, entry ∈ ledger.entries ↔ entry ∈ other.entries) :
    ledger = other := by
  have permuted : ledger.entries.Perm other.entries :=
    (List.perm_ext_iff_of_nodup built.distinct.of_map otherBuilt.distinct.of_map).mpr same
  have entries : ledger.entries = other.entries := by
    rw [← sortedBy_eq_self built.ordered, ← sortedBy_eq_self otherBuilt.ordered]
    exact sortedBy_eq_of_perm permuted fun left leftListed right
      rightListed => built.eq_of_sortKey_eq leftListed rightListed
  have payload : ledger.payload = other.payload := by
    rw [TemporalLedger.payload, ledgerId, communityId, entries, TemporalLedger.payload]
  have fingerprint : ledger.ledgerFingerprint = other.ledgerFingerprint := by
    have hashed := built.hashed
    rw [payload, otherBuilt.hashed] at hashed
    exact (Except.ok.inj hashed).symm
  cases ledger
  cases other
  simp_all

end TemporalLedger

/-! ## Appending -/

/-- What the append functions ask of an entry before they admit it. -/
structure Admitted (ledger : TemporalLedger) (entry : TemporalLedgerEntry) : Prop where
  fresh : entry.entryId ∉ ledger.entries.map TemporalLedgerEntry.entryId
  community : entry.communityId = ledger.communityId
  linked : ∀ fingerprint, entry.previousEntryFingerprint = some fingerprint →
    ∃ previous ∈ ledger.entries, previous.entryFingerprint = fingerprint

theorem admitEntry_eq_ok (entry : TemporalLedgerEntry) (result : Unit) :
    admitEntry ledger entry = .ok result ↔
      (entry.communityId = ledger.communityId ∧
        ∀ fingerprint, entry.previousEntryFingerprint = some fingerprint →
          ∃ previous ∈ ledger.entries, previous.entryFingerprint = fingerprint) ∧ () = result := by
  simp [admitEntry]

theorem appendEntries_eq_ok :
    appendEntries ledger newEntries = .ok next ↔
      (∀ entry ∈ newEntries, Admitted ledger entry) ∧
        buildTemporalLedger ledger.ledgerId ledger.communityId
          (ledger.entries ++ newEntries) = .ok next := by
  simp only [appendEntries, bind_eq_ok, require_eq_ok, exists_const,
    mapM_eq_ok_map admitEntry_eq_ok]
  constructor
  · rintro ⟨fresh, _, ⟨admitted, _⟩, built⟩
    exact ⟨fun entry listed => ⟨fresh entry listed,
      (admitted entry listed).1, (admitted entry listed).2⟩, built⟩
  · rintro ⟨admitted, built⟩
    exact ⟨fun entry listed => (admitted entry listed).fresh, _,
      ⟨fun entry listed => ⟨(admitted entry listed).community,
        (admitted entry listed).linked⟩, rfl⟩, built⟩

theorem mem_of_appendEntries (appended : appendEntries ledger newEntries = .ok next)
    (entry : TemporalLedgerEntry) :
    entry ∈ next.entries ↔ entry ∈ ledger.entries ∨ entry ∈ newEntries := by
  have built := (buildTemporalLedger_eq_ok.mp (appendEntries_eq_ok.mp appended).2).2.2.2
  rw [built, mem_sortedBy, List.mem_append]

theorem extends_of_appendEntries (appended : appendEntries ledger newEntries = .ok next) :
    next.Built ∧ ledger.Extends next := by
  obtain ⟨built, ledgerId, communityId, _⟩ :=
    buildTemporalLedger_eq_ok.mp (appendEntries_eq_ok.mp appended).2
  exact ⟨built, ledgerId, communityId, fun entry listed =>
    (mem_of_appendEntries appended entry).mpr (.inl listed)⟩

theorem theOnly_eq_some {α : Type} {items : List α} {item : α} :
    theOnly items = some item ↔ items = [item] := by
  match items with
  | [] => simp [theOnly]
  | [_] => simp [theOnly]
  | _ :: _ :: _ => simp [theOnly]

/-- A correction appends one entry that links to one of the ledger. -/
theorem appendCorrection_eq_ok {fromisoformat : FromIsoformat} {correction : Correction} :
    appendCorrection fromisoformat ledger correction = .ok next ↔
      ∃ target, (ledger.entries.filter fun entry => entry.entryFingerprint =
          correction.targetEntryFingerprint) = [target] ∧
        ∃ entry, makeTemporalEntry fromisoformat correction.registry
            (correction.entry ledger target) = .ok entry ∧
          appendEntries ledger [entry] = .ok next := by
  simp only [appendCorrection, bind_eq_ok, orRaise_eq_ok, theOnly_eq_some]

/-- The calls that append to a ledger. -/
inductive LedgerCall where
  | appendEntries (newEntries : List TemporalLedgerEntry)
  | appendCorrection (correction : Correction)

/-- What a call makes of a ledger. -/
def LedgerCall.run (fromisoformat : FromIsoformat) (ledger : TemporalLedger) :
    LedgerCall → Except String TemporalLedger
  | appendEntries newEntries => History.appendEntries ledger newEntries
  | appendCorrection correction =>
      History.appendCorrection fromisoformat ledger correction

/-- Calls one after the other. -/
def runCalls (fromisoformat : FromIsoformat) (calls : List LedgerCall)
    (ledger : TemporalLedger) : Except String TemporalLedger :=
  calls.foldlM (LedgerCall.run fromisoformat) ledger

/-- Every call appends some entries. -/
theorem LedgerCall.exists_appendEntries {fromisoformat : FromIsoformat} {call : LedgerCall}
    (ran : call.run fromisoformat ledger = .ok next) :
    ∃ newEntries, History.appendEntries ledger newEntries = .ok next := by
  cases call with
  | appendEntries newEntries => exact ⟨newEntries, ran⟩
  | appendCorrection correction =>
      obtain ⟨_, _, entry, _, appended⟩ := appendCorrection_eq_ok.mp ran
      exact ⟨[entry], appended⟩

/-- Every run grows the ledger. -/
theorem extends_of_runCalls {fromisoformat : FromIsoformat} {calls : List LedgerCall}
    (built : ledger.Built) (ran : runCalls fromisoformat calls ledger = .ok next) :
    next.Built ∧ ledger.Extends next := by
  refine foldlM_invariant
    (fun state => TemporalLedger.Built state ∧ ledger.Extends state)
    ?_ ⟨built, .refl ledger⟩ ran
  rintro state call after ⟨_, extended⟩ called
  obtain ⟨newEntries, appended⟩ := call.exists_appendEntries called
  obtain ⟨afterBuilt, grown⟩ := extends_of_appendEntries appended
  exact ⟨afterBuilt, extended.trans grown⟩

/-! ## Views -/

section Views

variable {fromisoformat : FromIsoformat}

/-- The times of an entry that can be read. -/
def TemporalLedgerEntry.times (fromisoformat : FromIsoformat) (entry : TemporalLedgerEntry) :
    Option (Int × Int) := do
  let valid ← (fromisoformat entry.validFrom).join
  let known ← (fromisoformat entry.knownAt).join
  return (valid, known)

/-- An entry is visible at its times. -/
def TemporalLedgerEntry.Shown (fromisoformat : FromIsoformat) (mode : QueryMode)
    (validCutoff knowledgeCutoff : Option Int) (entry : TemporalLedgerEntry) : Bool :=
  (entry.times fromisoformat).any fun times =>
    isVisible mode validCutoff knowledgeCutoff times.1 times.2

theorem TemporalLedgerEntry.times_eq_some {entry : TemporalLedgerEntry} {valid known : Int} :
    entry.times fromisoformat = some (valid, known) ↔
      fromisoformat entry.validFrom = some (some valid) ∧
        fromisoformat entry.knownAt = some (some known) := by
  simp [times, Option.bind_eq_some_iff, Option.join_eq_some_iff]

theorem showEntry_eq_ok {mode : QueryMode} {validCutoff knowledgeCutoff : Option Int}
    (entry : TemporalLedgerEntry) (result : Option TemporalLedgerEntry) :
    showEntry fromisoformat mode validCutoff knowledgeCutoff entry =
        .ok result ↔
      (entry.times fromisoformat).isSome ∧
        (if entry.Shown fromisoformat mode validCutoff knowledgeCutoff then
          some entry else none) = result := by
  simp only [showEntry, bind_eq_ok, parseTs_eq_ok, pure_eq_ok]
  constructor
  · rintro ⟨valid, validParsed, known, knownParsed, shown⟩
    have times := TemporalLedgerEntry.times_eq_some.mpr ⟨validParsed, knownParsed⟩
    rw [TemporalLedgerEntry.Shown, times]
    exact ⟨rfl, shown⟩
  · rintro ⟨readable, shown⟩
    obtain ⟨⟨valid, known⟩, times⟩ := Option.isSome_iff_exists.mp readable
    rw [TemporalLedgerEntry.Shown, times] at shown
    obtain ⟨validParsed, knownParsed⟩ := TemporalLedgerEntry.times_eq_some.mp times
    exact ⟨valid, validParsed, known, knownParsed, shown⟩

/-- The cutoffs of a query that is answered. -/
structure HistoryQuery.Cutoffs (fromisoformat : FromIsoformat) (registry : Registry)
    (query : HistoryQuery) (validCutoff knowledgeCutoff : Option Int) :
    Prop where
  mode : query.mode ∈ registry.queryModes
  valid : parseCutoff fromisoformat query.asOfValidTime "as_of_valid_time" = .ok validCutoff
  knowledge : parseCutoff fromisoformat query.asOfKnowledgeTime
    "as_of_knowledge_time" = .ok knowledgeCutoff
  validGiven : ¬ (query.mode ∈ [QueryMode.trueThen, .knownThen] ∧ validCutoff = none)
  knowledgeGiven : ¬ (query.mode = .knownThen ∧ knowledgeCutoff = none)

/-- The entries that answer a query. -/
def HistoryQuery.answer (fromisoformat : FromIsoformat) (query : HistoryQuery)
    (validCutoff knowledgeCutoff : Option Int) (ledger : TemporalLedger) :
    List TemporalLedgerEntry :=
  sortedBy TemporalLedgerEntry.sortKey ((query.rows ledger).filter
    (TemporalLedgerEntry.Shown fromisoformat query.mode validCutoff knowledgeCutoff))

theorem historicalView_eq_ok {registry : Registry} {view : HistoryView} (built : ledger.Built) :
    historicalView fromisoformat registry ledger query = .ok view ↔
      ∃ validCutoff knowledgeCutoff,
        query.Cutoffs fromisoformat registry validCutoff knowledgeCutoff ∧
        (∀ entry ∈ query.rows ledger, (entry.times fromisoformat).isSome) ∧
        view.query = query ∧ view.communityId = ledger.communityId ∧
        view.entries = query.answer fromisoformat validCutoff knowledgeCutoff ledger ∧
        hash view.payload = .ok view.viewFingerprint := by
  have kept : ∀ (shows : TemporalLedgerEntry → Bool)
      (rows : List TemporalLedgerEntry),
      (rows.map fun entry => if shows entry then some entry else none).filterMap
        id = rows.filter shows := by
    intro shows rows
    rw [List.filterMap_map, ← List.filterMap_eq_filter]
    rfl
  simp only [historicalView, built.replays, bind_eq_ok, require_eq_ok,
    exists_const, pure_eq_ok, mapM_eq_ok_map showEntry_eq_ok,
    Except.ok.injEq, exists_eq_left', true_and]
  constructor
  · rintro ⟨mode, validCutoff, valid, knowledgeCutoff, knowledge, validGiven,
      knowledgeGiven, _, ⟨readable, rfl⟩, fingerprint, hashed, rfl⟩
    refine ⟨validCutoff, knowledgeCutoff,
      ⟨mode, valid, knowledge, validGiven, knowledgeGiven⟩, readable, rfl, rfl, ?_, hashed⟩
    rw [kept]
    rfl
  · rintro ⟨validCutoff, knowledgeCutoff, cutoffs, readable, asked, community, entries, hashed⟩
    refine ⟨cutoffs.mode, validCutoff, cutoffs.valid, knowledgeCutoff,
      cutoffs.knowledge, cutoffs.validGiven, cutoffs.knowledgeGiven, _,
      ⟨readable, rfl⟩, view.viewFingerprint, ?_⟩
    rw [kept]
    cases view
    dsimp only at asked community entries
    subst asked community entries
    exact ⟨hashed, rfl⟩

/-- A ledger that grew by entries that a query reads but does not show. -/
structure TemporalLedger.Unseen (fromisoformat : FromIsoformat) (query : HistoryQuery)
    (validCutoff knowledgeCutoff : Option Int) (ledger next : TemporalLedger) : Prop where
  readable : ∀ entry ∈ query.rows next, entry ∉ ledger.entries → (entry.times fromisoformat).isSome
  hidden : ∀ entry ∈ query.rows next, entry ∉ ledger.entries →
    entry.Shown fromisoformat query.mode validCutoff knowledgeCutoff = false

theorem HistoryQuery.mem_rows {entry : TemporalLedgerEntry} :
    entry ∈ query.rows ledger ↔ entry ∈ ledger.entries ∧
      entry.scope = query.scope ∧ entry.scopeId = query.scopeId := by
  simp [rows]

theorem answer_eq_of_extends {validCutoff knowledgeCutoff : Option Int}
    (built : ledger.Built) (nextBuilt : next.Built) (extended : ledger.Extends next)
    (unseen : ledger.Unseen fromisoformat query validCutoff knowledgeCutoff next) :
    query.answer fromisoformat validCutoff knowledgeCutoff next =
      query.answer fromisoformat validCutoff knowledgeCutoff ledger := by
  symm
  refine sortedBy_eq_of_perm ?_ ?_
  · refine (List.perm_ext_iff_of_nodup ((built.distinct.of_map.filter _).filter _)
      ((nextBuilt.distinct.of_map.filter _).filter _)).mpr fun entry => ?_
    change entry ∈ (query.rows ledger).filter _ ↔ entry ∈ (query.rows next).filter _
    rw [List.mem_filter, List.mem_filter, HistoryQuery.mem_rows, HistoryQuery.mem_rows]
    constructor
    · rintro ⟨⟨listed, subject⟩, shown⟩
      exact ⟨⟨extended.kept entry listed, subject⟩, shown⟩
    · rintro ⟨⟨listed, subject⟩, shown⟩
      have old : entry ∈ ledger.entries := by
        by_contra new
        have hidden := unseen.hidden entry (HistoryQuery.mem_rows.mpr ⟨listed, subject⟩) new
        rw [shown] at hidden
        exact Bool.noConfusion hidden
      exact ⟨⟨old, subject⟩, shown⟩
  · intro left leftListed right rightListed
    have original : ∀ entry ∈ (query.rows ledger).filter
        (TemporalLedgerEntry.Shown fromisoformat query.mode validCutoff
          knowledgeCutoff), entry ∈ ledger.entries := fun entry listed =>
      (HistoryQuery.mem_rows.mp (List.mem_filter.mp listed).1).1
    exact built.eq_of_sortKey_eq (original left leftListed) (original right rightListed)

/-- What is unseen does not change a view. -/
theorem historicalView_eq_of_extends {registry : Registry}
    (built : ledger.Built) (nextBuilt : next.Built) (extended : ledger.Extends next)
    (unseen : ∀ validCutoff knowledgeCutoff,
      query.Cutoffs fromisoformat registry validCutoff knowledgeCutoff →
        ledger.Unseen fromisoformat query validCutoff knowledgeCutoff next) :
    (historicalView fromisoformat registry next query).toOption =
      (historicalView fromisoformat registry ledger query).toOption := by
  ext view
  rw [toOption_eq_some, toOption_eq_some, historicalView_eq_ok nextBuilt,
    historicalView_eq_ok built, extended.communityId]
  refine exists_congr fun validCutoff => exists_congr fun knowledgeCutoff =>
    and_congr_right fun cutoffs => ?_
  have hidden := unseen validCutoff knowledgeCutoff cutoffs
  rw [answer_eq_of_extends built nextBuilt extended hidden]
  refine and_congr_left fun _ => ?_
  constructor
  · intro readable entry listed
    obtain ⟨present, subject⟩ := HistoryQuery.mem_rows.mp listed
    exact readable entry (HistoryQuery.mem_rows.mpr ⟨extended.kept entry present, subject⟩)
  · intro readable entry listed
    by_cases old : entry ∈ ledger.entries
    · exact readable entry (HistoryQuery.mem_rows.mpr ⟨old, (HistoryQuery.mem_rows.mp listed).2⟩)
    · exact hidden.readable entry listed old

end Views

end SanTanHeights.Community.History
