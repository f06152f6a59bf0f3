import SanTanHeights.Community.Knowledge

/-!
# Both clocks of a view

A view of the past reads where an entry starts and never where it ends, and
entries are put in the order of the texts of their times.
-/

namespace SanTanHeights.Community.History

open Foundation Foundation.Json Foundation.Sorting Shared

/-! ## What a view should show -/

namespace TemporalLedgerEntry

variable (fromisoformat : FromIsoformat)

/-- An entry about the subject of a query. -/
def About (query : HistoryQuery) (entry : TemporalLedgerEntry) : Prop :=
  entry.scope = query.scope ∧ entry.scopeId = query.scopeId

/-- An entry that was valid from some time up to the instant. -/
def StartedBy (instant : Int) (entry : TemporalLedgerEntry) : Prop :=
  ∃ valid, fromisoformat entry.validFrom = some (some valid) ∧ valid ≤ instant

/-- An entry whose end lies before the instant. -/
def EndedBefore (instant : Int) (entry : TemporalLedgerEntry) : Prop :=
  ∃ text ∈ entry.validTo, ∃ ended, fromisoformat text = some (some ended) ∧ ended < instant

/-- An entry that was learned at the instant or earlier. -/
def KnownBy (instant : Int) (entry : TemporalLedgerEntry) : Prop :=
  ∃ known, fromisoformat entry.knownAt = some (some known) ∧ known ≤ instant

/-- An entry is valid at an instant. -/
def ValidAt (instant : Int) (entry : TemporalLedgerEntry) : Prop :=
  entry.StartedBy fromisoformat instant ∧ ¬ entry.EndedBefore fromisoformat instant

/-- Two entries follow each other in time. -/
def InOrder (left right : TemporalLedgerEntry) : Prop :=
  ∀ leftTimes ∈ left.times fromisoformat,
    ∀ rightTimes ∈ right.times fromisoformat, toLex leftTimes ≤ toLex rightTimes

/-- The texts of the two times of an entry. -/
def stamps (entry : TemporalLedgerEntry) : String ×ₗ String :=
  toLex (entry.validFrom, entry.knownAt)

end TemporalLedgerEntry

section Views

variable (fromisoformat : FromIsoformat)

/-- Entries in the order of their instants. -/
def Chronological (entries : List TemporalLedgerEntry) : Prop :=
  entries.Pairwise (TemporalLedgerEntry.InOrder fromisoformat)

/-- The cutoffs of a query admit an entry, its end aside. -/
def HistoryQuery.Reaches (query : HistoryQuery) (validCutoff knowledgeCutoff : Option Int)
    (entry : TemporalLedgerEntry) : Prop :=
  (∃ instant ∈ validCutoff, entry.StartedBy fromisoformat instant) ∧
    (query.mode = .knownThen → ∃ instant ∈ knowledgeCutoff, entry.KnownBy fromisoformat instant)

/-- A view of the past shows what was valid then and, where that is asked,
known by then. -/
def HistoryView.Exact (ledger : TemporalLedger) (query : HistoryQuery)
    (validCutoff knowledgeCutoff : Option Int) (view : HistoryView) :
    Prop :=
  query.mode ∈ [QueryMode.trueThen, .knownThen] →
    view.entries.Nodup ∧ ∀ entry, entry ∈ view.entries ↔
      entry ∈ ledger.entries ∧ entry.About query ∧
        (∃ instant ∈ validCutoff, entry.ValidAt fromisoformat instant) ∧
          (query.mode = .knownThen →
            ∃ instant ∈ knowledgeCutoff, entry.KnownBy fromisoformat instant)

/-- A query of a ledger is answered exactly and in order. -/
def HistoryQuery.Bitemporal (registry : Registry) (ledger : TemporalLedger)
    (query : HistoryQuery) (validCutoff knowledgeCutoff : Option Int) :
    Prop :=
  Chronological fromisoformat ledger.entries ∧
    ∃ view, historicalView fromisoformat registry ledger query = .ok view ∧
      view.Exact fromisoformat ledger query validCutoff knowledgeCutoff ∧
        Chronological fromisoformat view.entries

/-- The times of the entries can be read, nothing that a view of the past
reaches has ended, and the texts of the times are in the order of the
instants. -/
structure HistoryQuery.Plain (query : HistoryQuery) (validCutoff knowledgeCutoff : Option Int)
    (entries : List TemporalLedgerEntry) : Prop where
  readable : ∀ entry ∈ entries, entry.About query → (entry.times fromisoformat).isSome
  unended : query.mode ∈ [QueryMode.trueThen, .knownThen] →
    ∀ entry ∈ entries, entry.About query →
      query.Reaches fromisoformat validCutoff knowledgeCutoff entry →
        ∀ instant ∈ validCutoff, ¬ entry.EndedBefore fromisoformat instant
  agrees : ∀ left ∈ entries, ∀ right ∈ entries,
    left.stamps < right.stamps → left.InOrder fromisoformat right

end Views

/-! ## The order of the entries -/

variable {fromisoformat : FromIsoformat}

variable {left right entry : TemporalLedgerEntry}
  {entries : List TemporalLedgerEntry} {query : HistoryQuery}
  {validCutoff knowledgeCutoff : Option Int} {ledger : TemporalLedger}

theorem TemporalLedgerEntry.sortKey_lt_of_stamps_lt (earlier : left.stamps < right.stamps) :
    left.sortKey < right.sortKey := by
  simp only [stamps, sortKey, Prod.Lex.toLex_lt_toLex] at earlier ⊢
  rcases earlier with valid | ⟨valid, known⟩
  · exact .inl valid
  · exact .inr ⟨valid, .inl known⟩

theorem TemporalLedgerEntry.stamps_le_of_sortKey_le (before : left.sortKey ≤ right.sortKey) :
    left.stamps ≤ right.stamps := by
  by_contra later
  exact absurd before (not_le_of_gt (sortKey_lt_of_stamps_lt (not_le.mp later)))

/-- The texts of the times determine the times. -/
theorem TemporalLedgerEntry.inOrder_of_stamps_eq (equal : left.stamps = right.stamps) :
    left.InOrder fromisoformat right := by
  obtain ⟨valid, known⟩ := Prod.mk.inj (toLex.injective equal)
  intro leftTimes leftRead rightTimes rightRead
  have same : left.times fromisoformat = right.times fromisoformat := by
    rw [times, valid, known, times]
  rw [same] at leftRead
  rw [Option.mem_unique leftRead rightRead]

/-- Entries sorted by their texts are in order just where the texts are. -/
theorem chronological_iff
    (ordered : entries.Pairwise fun left right =>
      left.sortKey ≤ right.sortKey) :
    Chronological fromisoformat entries ↔ ∀ left ∈ entries, ∀ right ∈ entries,
        left.stamps < right.stamps → left.InOrder fromisoformat right := by
  constructor
  · intro chronological left leftListed right rightListed earlier
    exact rel_of_key_lt ordered chronological leftListed rightListed
      (TemporalLedgerEntry.sortKey_lt_of_stamps_lt earlier)
  · intro agrees
    refine ordered.imp_of_mem fun {left right} leftListed rightListed before => ?_
    rcases (TemporalLedgerEntry.stamps_le_of_sortKey_le before).lt_or_eq
      with earlier | equal
    · exact agrees left leftListed right rightListed earlier
    · exact TemporalLedgerEntry.inOrder_of_stamps_eq equal

/-! ## Views of built ledgers -/

/-- A view reads where an entry starts, and not where it ends. -/
theorem shown_iff_reaches (past : query.mode ∈ [QueryMode.trueThen, .knownThen])
    (readable : (entry.times fromisoformat).isSome) :
    entry.Shown fromisoformat query.mode validCutoff knowledgeCutoff = true ↔
      query.Reaches fromisoformat validCutoff knowledgeCutoff entry := by
  obtain ⟨⟨valid, known⟩, times⟩ := Option.isSome_iff_exists.mp readable
  obtain ⟨validRead, knownRead⟩ := TemporalLedgerEntry.times_eq_some.mp times
  have started : ∀ instant, entry.StartedBy fromisoformat instant ↔
      valid ≤ instant := fun instant => by
    simp [TemporalLedgerEntry.StartedBy, validRead]
  have learned : ∀ instant, entry.KnownBy fromisoformat instant ↔
      known ≤ instant := fun instant => by
    simp [TemporalLedgerEntry.KnownBy, knownRead]
  rw [List.mem_cons, List.mem_singleton] at past
  rcases past with mode | mode
  · simp [TemporalLedgerEntry.Shown, times, HistoryQuery.Reaches, mode,
      isVisible, started, Option.any_eq_true]
  · simp [TemporalLedgerEntry.Shown, times, HistoryQuery.Reaches, mode,
      isVisible, started, learned, Option.any_eq_true]

theorem HistoryQuery.mem_answer :
    entry ∈ query.answer fromisoformat validCutoff knowledgeCutoff ledger ↔
      entry ∈ ledger.entries ∧ entry.About query ∧
        entry.Shown fromisoformat query.mode validCutoff knowledgeCutoff = true := by
  rw [answer, mem_sortedBy, List.mem_filter, mem_rows, TemporalLedgerEntry.About]
  tauto

/-- Each entry of a built ledger has a text. -/
theorem TemporalLedger.Built.serializable
    (built : ledger.Built) (listed : entry ∈ ledger.entries) :
    Serializable entry.asdict := by
  have whole := exists_sha256Dumps_iff.mp ⟨_, built.hashed⟩
  simp only [TemporalLedger.payload, serializable_obj, List.forall_mem_cons,
    serializable_arr, List.forall_mem_map] at whole
  exact whole.2.2.1 entry listed

/-- A query of a built ledger is answered just where the times of its subject
can be read. -/
theorem exists_historicalView_iff {registry : Registry} (built : ledger.Built)
    (asked : query.Cutoffs fromisoformat registry validCutoff knowledgeCutoff) :
    (∃ view, historicalView fromisoformat registry ledger query = .ok view ∧
      view.entries = entries) ↔
      (∀ entry ∈ ledger.entries, entry.About query → (entry.times fromisoformat).isSome) ∧
        query.answer fromisoformat validCutoff knowledgeCutoff ledger = entries := by
  constructor
  · rintro ⟨view, viewed, rfl⟩
    obtain ⟨otherValid, otherKnowledge, cutoffs, readable, _, _, shown, _⟩ :=
      (historicalView_eq_ok built).mp viewed
    have valid := asked.valid.symm.trans cutoffs.valid
    have knowledge := asked.knowledge.symm.trans cutoffs.knowledge
    rw [Except.ok.inj valid, Except.ok.inj knowledge]
    exact ⟨fun entry listed about =>
      readable entry (HistoryQuery.mem_rows.mpr ⟨listed, about⟩), shown.symm⟩
  · rintro ⟨readable, rfl⟩
    let view : HistoryView :=
      { query, communityId := ledger.communityId
        entries := query.answer fromisoformat validCutoff knowledgeCutoff ledger
        viewFingerprint := "" }
    have written : Serializable view.payload := by
      have each : ∀ entry ∈ view.entries, Serializable entry.asdict :=
        fun entry listed =>
          built.serializable (HistoryQuery.mem_answer.mp listed).1
      simpa [HistoryView.payload] using each
    obtain ⟨fingerprint, hashed⟩ := exists_sha256Dumps_iff.mpr written
    refine ⟨{ view with viewFingerprint := fingerprint },
      (historicalView_eq_ok built).mpr ⟨_, _, asked, ?_, rfl, rfl, rfl, hashed⟩, rfl⟩
    exact fun entry listed => by
      obtain ⟨present, about⟩ := HistoryQuery.mem_rows.mp listed
      exact readable entry present about

/-- The view of a query that reaches no ended entry is exact. -/
theorem exact_iff {view : HistoryView} (built : ledger.Built)
    (readable : ∀ entry ∈ ledger.entries, entry.About query → (entry.times fromisoformat).isSome)
    (shown : query.answer fromisoformat validCutoff knowledgeCutoff ledger = view.entries) :
    view.Exact fromisoformat ledger query validCutoff knowledgeCutoff ↔
      (query.mode ∈ [QueryMode.trueThen, .knownThen] →
        ∀ entry ∈ ledger.entries, entry.About query →
          query.Reaches fromisoformat validCutoff knowledgeCutoff entry →
            ∀ instant ∈ validCutoff, ¬ entry.EndedBefore fromisoformat instant) := by
  refine forall_congr' fun past => ?_
  have distinct : view.entries.Nodup := by
    rw [← shown]
    exact (sortedBy_perm _ _).nodup_iff.mpr ((built.distinct.of_map.filter _).filter _)
  have listedIff : ∀ entry, entry ∈ view.entries ↔
      entry ∈ ledger.entries ∧ entry.About query ∧
        query.Reaches fromisoformat validCutoff knowledgeCutoff entry := by
    intro entry
    rw [← shown, HistoryQuery.mem_answer]
    refine and_congr_right fun listed => and_congr_right fun about => ?_
    exact shown_iff_reaches past (readable entry listed about)
  rw [and_iff_right distinct]
  constructor
  · intro exact entry listed about reached instant given ended
    obtain ⟨_, _, ⟨other, otherGiven, valid⟩, _⟩ :=
      (exact entry).mp ((listedIff entry).mpr ⟨listed, about, reached⟩)
    rw [Option.mem_unique otherGiven given] at valid
    exact valid.2 ended
  · intro unended entry
    rw [listedIff]
    refine and_congr_right fun listed => and_congr_right fun about => ?_
    constructor
    · rintro ⟨⟨instant, given, started⟩, known⟩
      exact ⟨⟨instant, given, started, unended entry listed about
        ⟨⟨instant, given, started⟩, known⟩ instant given⟩, known⟩
    · rintro ⟨⟨instant, given, valid⟩, known⟩
      exact ⟨⟨instant, given, valid.1⟩, known⟩

/-- A query is answered exactly and in order just where its entries are
plain. -/
theorem bitemporal_iff_plain {registry : Registry} (built : ledger.Built)
    (asked : query.Cutoffs fromisoformat registry validCutoff knowledgeCutoff) :
    query.Bitemporal fromisoformat registry ledger validCutoff knowledgeCutoff ↔
      query.Plain fromisoformat validCutoff knowledgeCutoff ledger.entries := by
  constructor
  · rintro ⟨chronological, view, viewed, exact, _⟩
    obtain ⟨readable, shown⟩ := (exists_historicalView_iff built asked).mp ⟨view, viewed, rfl⟩
    exact ⟨readable, (exact_iff built readable shown).mp exact,
      (chronological_iff built.ordered).mp chronological⟩
  · intro plain
    obtain ⟨view, viewed, shown⟩ :=
      (exists_historicalView_iff built asked).mpr ⟨plain.readable, rfl⟩
    refine ⟨(chronological_iff built.ordered).mpr plain.agrees, view, viewed,
      (exact_iff built plain.readable shown.symm).mpr plain.unended, ?_⟩
    rw [shown]
    refine (chronological_iff (pairwise_sortedBy _ _)).mpr ?_
    intro left leftListed right rightListed
    exact plain.agrees left (HistoryQuery.mem_answer.mp leftListed).1 right
      (HistoryQuery.mem_answer.mp rightListed).1

theorem HistoryQuery.Plain.congr {others : List TemporalLedgerEntry}
    (same : ∀ entry, entry ∈ entries ↔ entry ∈ others)
    (plain : query.Plain fromisoformat validCutoff knowledgeCutoff entries) :
    query.Plain fromisoformat validCutoff knowledgeCutoff others where
  readable entry listed := plain.readable entry ((same entry).mpr listed)
  unended past entry listed := plain.unended past entry ((same entry).mpr listed)
  agrees left leftListed right rightListed :=
    plain.agrees left ((same left).mpr leftListed) right ((same right).mpr rightListed)

/-- A query of a ledger respects both clocks just where the entries that the
ledger was built of are plain. -/
theorem historical_view_exact_iff {registry : Registry} {ledgerId communityId : String}
    {entries : List TemporalLedgerEntry} {ledger : TemporalLedger}
    {query : HistoryQuery} {validCutoff knowledgeCutoff : Option Int}
    (built : buildTemporalLedger ledgerId communityId entries = .ok ledger)
    (asked : query.Cutoffs fromisoformat registry validCutoff knowledgeCutoff) :
    query.Bitemporal fromisoformat registry ledger validCutoff knowledgeCutoff ↔
      query.Plain fromisoformat validCutoff knowledgeCutoff entries := by
  obtain ⟨ledgerBuilt, _, _, sorted⟩ := buildTemporalLedger_eq_ok.mp built
  have same : ∀ entry, entry ∈ ledger.entries ↔ entry ∈ entries := by
    rw [sorted]
    exact mem_sortedBy _ _
  rw [bitemporal_iff_plain ledgerBuilt asked]
  exact ⟨.congr same, .congr fun entry => (same entry).symm⟩

/-! ## Samples -/

/-- A ledger of textual facts about the community and its view. -/
theorem exists_textualView {registry : Registry} {entries : List TemporalLedgerEntry}
    {query : HistoryQuery} {validCutoff knowledgeCutoff : Option Int}
    (community : ∀ entry ∈ entries, entry.communityId = "STH")
    (distinct : (entries.map TemporalLedgerEntry.entryId).Nodup)
    (textual : ∀ entry ∈ entries, Textual entry.factValue)
    (asked : query.Cutoffs fromisoformat registry validCutoff knowledgeCutoff)
    (readable : ∀ entry ∈ entries, (entry.times fromisoformat).isSome) :
    ∃ ledger view, buildTemporalLedger "LEDGER" "STH" entries = .ok ledger ∧
      historicalView fromisoformat registry ledger query = .ok view ∧
      ∀ entry, entry ∈ view.entries ↔ entry ∈ entries ∧
        entry.About query ∧ entry.Shown fromisoformat query.mode validCutoff
          knowledgeCutoff = true := by
  have identified : Text.isBlank "LEDGER" = false ∧ Text.isBlank "STH" = false := by decide
  obtain ⟨ledger, made⟩ := exists_buildTemporalLedger identified community distinct textual
  obtain ⟨built, _, _, sorted⟩ := buildTemporalLedger_eq_ok.mp made
  have same : ∀ entry, entry ∈ ledger.entries ↔ entry ∈ entries := by
    rw [sorted]
    exact mem_sortedBy _ _
  obtain ⟨view, viewed, shown⟩ := (exists_historicalView_iff built asked).mpr
    ⟨fun entry listed _ => readable entry ((same entry).mp listed), rfl⟩
  refine ⟨ledger, view, made, viewed, fun entry => ?_⟩
  rw [shown, HistoryQuery.mem_answer, same]

theorem forall_mem_pair {α : Type} {first second : α} {holds : α → Prop} :
    (∀ item ∈ [first, second], holds item) ↔ holds first ∧ holds second := by
  simp

/-- What was true of the community at a time. -/
def pastQuery (asOfValidTime : String) : HistoryQuery where
  mode := .trueThen
  scope := "COMMUNITY"
  scopeId := "STH"
  asOfValidTime := some asOfValidTime
  asOfKnowledgeTime := none

theorem cutoffs_pastQuery {text : String} {instant : Int} (given : text ≠ "")
    (parsed : fromisoformat text = some (some instant)) :
    (pastQuery text).Cutoffs fromisoformat registry (some instant) none where
  mode := by simp [pastQuery, registry]
  valid := by
    rw [pastQuery]
    change (if text = "" then Except.ok none else _) = _
    rw [if_neg given, parseTs_eq_ok.mpr parsed]
    rfl
  knowledge := rfl
  validGiven := by simp
  knowledgeGiven := by simp [pastQuery]

theorem historical_view_exact_iff_sample :
    ∃ ledger, buildTemporalLedger "LEDGER" "STH"
        [februaryEntry "2026-02-01T00:00:00+00:00", januaryEntry] = .ok ledger ∧
      (pastQuery "2026-01-01T00:00:00+00:00").Bitemporal sampleFromisoformat
        registry ledger (some 1767225600) none := by
  have asked := @cutoffs_pastQuery sampleFromisoformat
    "2026-01-01T00:00:00+00:00" 1767225600 (by decide) rfl
  obtain ⟨ledger, _, made, _⟩ := @exists_textualView sampleFromisoformat
    registry [februaryEntry "2026-02-01T00:00:00+00:00", januaryEntry] _ _ _
    (by simp [februaryEntry, januaryEntry, bareEntry])
    (by simp [februaryEntry, januaryEntry, bareEntry])
    (by simp [februaryEntry, januaryEntry, bareEntry]) asked
    (forall_mem_pair.mpr ⟨rfl, rfl⟩)
  refine ⟨ledger, made, (historical_view_exact_iff made asked).mpr ?_⟩
  constructor
  · exact forall_mem_pair.mpr ⟨fun _ => rfl, fun _ => rfl⟩
  · intro _
    refine forall_mem_pair.mpr ⟨?_, ?_⟩
    · rintro _ _ _ _ ⟨_, ⟨⟩, _⟩
    · rintro _ _ _ _ ⟨_, ⟨⟩, _⟩
  · refine forall_mem_pair.mpr ⟨forall_mem_pair.mpr ⟨?_, ?_⟩,
      forall_mem_pair.mpr ⟨?_, ?_⟩⟩
    · exact fun earlier => absurd earlier (lt_irrefl _)
    · intro earlier
      refine absurd earlier ?_
      decide
    · rintro _ _ ⟨⟩ _ ⟨⟩
      decide
    · exact fun earlier => absurd earlier (lt_irrefl _)

/-- Timestamps in two offsets. -/
def mixedFromisoformat : FromIsoformat := fun text =>
  if text = "2026-01-01T00:00:00-07:00" then some (some 1767250800)
  else if text = "2026-01-01T02:00:00+00:00" then some (some 1767232800)
  else sampleFromisoformat text

/-- An entry of the local midnight that ended when it began. -/
def endedEntry : TemporalLedgerEntry :=
  { bareEntry "ENDED" "2026-01-01T00:00:00-07:00" "2026-01-01T00:00:00-07:00"
      "PLANNED" with validTo := some "2026-01-01T00:00:00-07:00" }

/-- An entry of some hours earlier. -/
def earlierEntry : TemporalLedgerEntry :=
  bareEntry "EARLIER" "2026-01-01T02:00:00+00:00" "2026-01-01T02:00:00+00:00" "PLANNED"

theorem exists_endedEntry :
    ∃ fingerprint, makeTemporalEntry mixedFromisoformat registry endedEntry =
        .ok { endedEntry with entryFingerprint := fingerprint } := by
  refine exists_makeTemporalEntry
    { @acceptable_bareEntry mixedFromisoformat "ENDED"
        "2026-01-01T00:00:00-07:00" "2026-01-01T00:00:00-07:00" "PLANNED"
        1767250800 1767250800 (by decide) rfl rfl with
      times := ?_ } (textual_str _)
  refine ⟨1767250800, 1767250800, 1767250800, rfl, rfl, rfl, le_rfl, ?_⟩
  rintro _ ⟨⟩
  exact ⟨1767250800, rfl, le_rfl⟩

/-- An entry that ended in January is shown as true in February, and the
ledger lists it before an entry of an earlier instant. -/
theorem ended_entry_shown :
    ∃ ended earlier ledger view,
      makeTemporalEntry mixedFromisoformat registry endedEntry = .ok ended ∧
      makeTemporalEntry mixedFromisoformat registry earlierEntry = .ok earlier ∧
      buildTemporalLedger "LEDGER" "STH" [ended, earlier] = .ok ledger ∧
      historicalView mixedFromisoformat registry ledger
        (pastQuery "2026-02-01T00:00:00+00:00") = .ok view ∧
      ended ∈ view.entries ∧
      ended.EndedBefore mixedFromisoformat 1769904000 ∧
      ¬ Chronological mixedFromisoformat ledger.entries ∧
      ¬ (pastQuery "2026-02-01T00:00:00+00:00").Bitemporal
        mixedFromisoformat registry ledger (some 1769904000) none := by
  obtain ⟨endedFingerprint, endedMade⟩ := exists_endedEntry
  obtain ⟨earlierFingerprint, earlierMade⟩ := @exists_bareEntry
    mixedFromisoformat "EARLIER" "2026-01-01T02:00:00+00:00"
    "2026-01-01T02:00:00+00:00" "PLANNED" 1767232800 1767232800 (by decide)
    rfl rfl
  have asked := @cutoffs_pastQuery mixedFromisoformat
    "2026-02-01T00:00:00+00:00" 1769904000 (by decide) rfl
  obtain ⟨ledger, view, made, viewed, shown⟩ := @exists_textualView
    mixedFromisoformat registry
    [{ endedEntry with entryFingerprint := endedFingerprint },
      { earlierEntry with entryFingerprint := earlierFingerprint }] _ _ _
    (forall_mem_pair.mpr ⟨rfl, rfl⟩)
    (by simp [endedEntry, earlierEntry, bareEntry])
    (forall_mem_pair.mpr ⟨textual_str _, textual_str _⟩) asked
    (forall_mem_pair.mpr ⟨rfl, rfl⟩)
  obtain ⟨built, _, _, sorted⟩ := buildTemporalLedger_eq_ok.mp made
  have before : endedEntry.stamps < earlierEntry.stamps := by decide
  have unordered : ¬ Chronological mixedFromisoformat ledger.entries := by
    intro chronological
    have agrees := (chronological_iff built.ordered).mp chronological
    simp only [sorted, mem_sortedBy] at agrees
    have inOrder := agrees _ List.mem_cons_self _
      (List.mem_cons_of_mem _ List.mem_cons_self) before
      (1767250800, 1767250800) rfl (1767232800, 1767232800) rfl
    revert inOrder
    decide
  refine ⟨_, _, ledger, view, endedMade, earlierMade, made, viewed,
    (shown _).mpr ⟨List.mem_cons_self, ⟨rfl, rfl⟩, rfl⟩,
    ⟨_, rfl, 1767250800, rfl, by decide⟩, unordered, ?_⟩
  exact fun bitemporal => unordered bitemporal.1

end SanTanHeights.Community.History
