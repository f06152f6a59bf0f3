import SanTanHeights.Community.Entries

/-!
# Past knowledge

What a `KNOWN_THEN` view shows stays as it is while entries that were learned
later are appended.
-/

namespace SanTanHeights.Community.History

open Foundation Foundation.Json Foundation.Sorting Foundation.Outcome Shared

/-! ## Stability -/

/-- An entry was learned after the knowledge time of a query. -/
def TemporalLedgerEntry.LearnedAfter (fromisoformat : FromIsoformat) (query : HistoryQuery)
    (entry : TemporalLedgerEntry) : Prop :=
  ∃ text cutoff known, query.asOfKnowledgeTime = some text ∧
    fromisoformat text = some (some cutoff) ∧
      fromisoformat entry.knownAt = some (some known) ∧ cutoff < known

/-- The appended entries that a query reads. -/
def HistoryQuery.newRows (query : HistoryQuery) (ledger next : TemporalLedger) :
    Set TemporalLedgerEntry :=
  {entry | entry ∈ query.rows next ∧ entry ∉ ledger.entries}

theorem parseCutoff_eq_ok {fromisoformat : FromIsoformat} {text label : String} {instant : Int}
    {cutoff : Option Int} (parsed : fromisoformat text = some (some instant))
    (cut : parseCutoff fromisoformat (some text) label = .ok cutoff) (given : cutoff ≠ none) :
    cutoff = some instant := by
  change (if text = "" then Except.ok none else _) = _ at cut
  split_ifs at cut with empty
  · exact absurd (Except.ok.inj cut).symm given
  · obtain ⟨_, found, rfl⟩ := map_eq_ok.mp cut
    rw [parseTs_eq_ok, parsed] at found
    rw [Option.some.inj (Option.some.inj found)]

/-- What is learned after the knowledge time is not shown. -/
theorem shown_eq_false_of_learnedAfter {fromisoformat : FromIsoformat} {registry : Registry}
    {query : HistoryQuery} {validCutoff knowledgeCutoff : Option Int}
    {entry : TemporalLedgerEntry} (mode : query.mode = .knownThen)
    (cutoffs : query.Cutoffs fromisoformat registry validCutoff knowledgeCutoff)
    (learned : entry.LearnedAfter fromisoformat query) :
    entry.Shown fromisoformat query.mode validCutoff knowledgeCutoff = false := by
  obtain ⟨text, cutoff, known, asked, cutoffParsed, knownParsed, later⟩ := learned
  have given : knowledgeCutoff ≠ none := fun missing =>
    cutoffs.knowledgeGiven ⟨mode, missing⟩
  have cut := cutoffs.knowledge
  rw [asked] at cut
  rw [parseCutoff_eq_ok cutoffParsed cut given, mode]
  by_contra visible
  rw [Bool.not_eq_false] at visible
  obtain ⟨⟨valid, other⟩, times, visible⟩ := (Option.any_eq_true _ _).mp visible
  have same := (TemporalLedgerEntry.times_eq_some.mp times).2
  rw [knownParsed] at same
  obtain rfl : known = other := Option.some.inj (Option.some.inj same)
  simp only [isVisible, Option.any_some, Bool.and_eq_true, decide_eq_true_eq] at visible
  omega

/-- What a run appends later does not change what was known, what it found is
kept, and its entries alone decide how it ends. -/
theorem known_then_stable {fromisoformat : FromIsoformat} {ledgerId communityId : String}
    {entries : List TemporalLedgerEntry} {ledger next : TemporalLedger}
    {calls : List LedgerCall}
    (built : buildTemporalLedger ledgerId communityId entries = .ok ledger)
    (ran : runCalls fromisoformat calls ledger = .ok next) :
    (∀ registry query, query.mode = .knownThen →
      (∀ entry ∈ query.newRows ledger next,
        entry.LearnedAfter fromisoformat query) →
      (∀ entry ∈ query.newRows ledger next, ∃ valid,
        fromisoformat entry.validFrom = some (some valid)) →
      (historicalView fromisoformat registry next query).toOption =
        (historicalView fromisoformat registry ledger query).toOption) ∧
    (∀ entry ∈ ledger.entries, entry ∈ next.entries) ∧
    (∀ others other, runCalls fromisoformat others ledger = .ok other →
      (∀ entry, entry ∈ other.entries ↔ entry ∈ next.entries) →
      other = next) := by
  have ledgerBuilt := (buildTemporalLedger_eq_ok.mp built).1
  obtain ⟨nextBuilt, extended⟩ := extends_of_runCalls ledgerBuilt ran
  refine ⟨?_, extended.kept, ?_⟩
  · intro registry query mode learned readable
    refine historicalView_eq_of_extends ledgerBuilt nextBuilt extended
      fun validCutoff knowledgeCutoff cutoffs => ⟨?_, ?_⟩
    · intro entry listed new
      obtain ⟨valid, validParsed⟩ := readable entry ⟨listed, new⟩
      obtain ⟨_, _, known, _, _, knownParsed, _⟩ :=
        learned entry ⟨listed, new⟩
      rw [TemporalLedgerEntry.times_eq_some.mpr ⟨validParsed, knownParsed⟩]
      rfl
    · intro entry listed new
      exact shown_eq_false_of_learnedAfter mode cutoffs
        (learned entry ⟨listed, new⟩)
  · intro others other otherRan same
    obtain ⟨otherBuilt, otherExtended⟩ :=
      extends_of_runCalls ledgerBuilt otherRan
    exact otherBuilt.eq_of_mem_iff nextBuilt
      (otherExtended.ledgerId.trans extended.ledgerId.symm)
      (otherExtended.communityId.trans extended.communityId.symm) same

/-! ## Samples -/

/-- A ledger of one bare entry and the run that appends another to it. -/
theorem exists_bareRun {fromisoformat : FromIsoformat} {first second : TemporalLedgerEntry}
    (firstCommunity : first.communityId = "STH") (secondCommunity : second.communityId = "STH")
    (distinct : first.entryId ≠ second.entryId) (firstTextual : Textual first.factValue)
    (secondTextual : Textual second.factValue)
    (unlinked : second.previousEntryFingerprint = none) :
    ∃ ledger next, buildTemporalLedger "LEDGER" "STH" [first] = .ok ledger ∧
      runCalls fromisoformat [.appendEntries [second]] ledger = .ok next ∧
        ledger.entries = [first] ∧
          ∀ entry, entry ∈ next.entries ↔ entry = first ∨ entry = second := by
  have identified : Text.isBlank "LEDGER" = false ∧ Text.isBlank "STH" = false := by decide
  obtain ⟨ledger, built⟩ := @exists_buildTemporalLedger "LEDGER" "STH" [first]
    identified (by simpa using firstCommunity) (by simp)
    (by simpa using firstTextual)
  obtain ⟨_, ledgerId, communityId, entries⟩ := buildTemporalLedger_eq_ok.mp built
  change ledger.entries = [first] at entries
  obtain ⟨next, grown⟩ := @exists_buildTemporalLedger ledger.ledgerId
    ledger.communityId (ledger.entries ++ [second])
    (by rwa [ledgerId, communityId])
    (by
      rw [entries, communityId]
      simp [firstCommunity, secondCommunity])
    (by
      rw [entries]
      simpa using distinct)
    (by
      rw [entries]
      simp [firstTextual, secondTextual])
  have admitted : Admitted ledger second :=
    { fresh := by
        rw [entries]
        simpa using distinct.symm
      community := by rw [secondCommunity, communityId]
      linked := by simp [unlinked] }
  have appended : appendEntries ledger [second] = .ok next :=
    appendEntries_eq_ok.mpr ⟨by simpa using admitted, grown⟩
  refine ⟨ledger, next, built, ?_, entries, fun entry => ?_⟩
  · exact bind_eq_ok.mpr ⟨next, appended, rfl⟩
  · rw [mem_of_appendEntries appended, entries, List.mem_singleton, List.mem_singleton]

/-- What was known of the community on the first of January. -/
def bareQuery : HistoryQuery where
  mode := .knownThen
  scope := "COMMUNITY"
  scopeId := "STH"
  asOfValidTime := some "2026-01-01T00:00:00+00:00"
  asOfKnowledgeTime := some "2026-01-01T00:00:00+00:00"

/-- An entry of the first of January. -/
def januaryEntry : TemporalLedgerEntry :=
  bareEntry "FIRST" "2026-01-01T00:00:00+00:00" "2026-01-01T00:00:00+00:00" "PLANNED"

/-- An entry learned in February, valid from some time. -/
def februaryEntry (validFrom : String) : TemporalLedgerEntry :=
  bareEntry "SECOND" validFrom "2026-02-01T00:00:00+00:00" "BUILT"

theorem learnedAfter_februaryEntry (validFrom : String) :
    (februaryEntry validFrom).LearnedAfter sampleFromisoformat bareQuery :=
  ⟨_, 1767225600, 1769904000, rfl, rfl, rfl, by omega⟩

theorem known_then_stable_sample :
    ∃ ledger next,
      buildTemporalLedger "LEDGER" "STH" [januaryEntry] = .ok ledger ∧
      runCalls sampleFromisoformat [.appendEntries
        [februaryEntry "2026-01-01T00:00:00+00:00"]] ledger = .ok next ∧
      (historicalView sampleFromisoformat registry next bareQuery).toOption =
        (historicalView sampleFromisoformat registry ledger
          bareQuery).toOption ∧
      januaryEntry ∈ next.entries := by
  obtain ⟨ledger, next, built, ran, entries, grown⟩ :=
    @exists_bareRun sampleFromisoformat januaryEntry
      (februaryEntry "2026-01-01T00:00:00+00:00") rfl rfl (by decide)
      (textual_str _) (textual_str _) rfl
  have new : ∀ entry ∈ bareQuery.newRows ledger next,
      entry = februaryEntry "2026-01-01T00:00:00+00:00" := by
    rintro entry ⟨listed, unlisted⟩
    rw [entries, List.mem_singleton] at unlisted
    exact ((grown entry).mp (HistoryQuery.mem_rows.mp listed).1).resolve_left
      unlisted
  obtain ⟨stable, kept, _⟩ := known_then_stable built ran
  refine ⟨ledger, next, built, ran, stable registry bareQuery rfl ?_ ?_,
    kept januaryEntry (by rw [entries]; exact List.mem_cons_self)⟩
  · intro entry listed
    rw [new entry listed]
    exact learnedAfter_februaryEntry _
  · intro entry listed
    rw [new entry listed]
    exact ⟨1767225600, rfl⟩

/-- An entry whose valid time cannot be read is appended, and no view of its
subject is answered any more. -/
theorem known_then_not_stable :
    ∃ ledger next view,
      buildTemporalLedger "LEDGER" "STH" [januaryEntry] = .ok ledger ∧
      runCalls sampleFromisoformat [.appendEntries [februaryEntry ""]]
        ledger = .ok next ∧
      (∀ entry ∈ next.entries, entry ∉ ledger.entries →
        entry.LearnedAfter sampleFromisoformat bareQuery) ∧
      historicalView sampleFromisoformat registry ledger bareQuery = .ok view ∧
      (historicalView sampleFromisoformat registry next bareQuery).toOption =
        none := by
  obtain ⟨ledger, next, built, ran, entries, grown⟩ :=
    @exists_bareRun sampleFromisoformat januaryEntry (februaryEntry "") rfl
      rfl (by decide) (textual_str _) (textual_str _) rfl
  have ledgerBuilt := (buildTemporalLedger_eq_ok.mp built).1
  have nextBuilt := (extends_of_runCalls ledgerBuilt ran).1
  have cutoffs : bareQuery.Cutoffs sampleFromisoformat registry
      (some 1767225600) (some 1767225600) :=
    { mode := by decide
      valid := rfl
      knowledge := rfl
      validGiven := by simp
      knowledgeGiven := by simp }
  set shown := bareQuery.answer sampleFromisoformat (some 1767225600)
    (some 1767225600) ledger with answer
  have answered : ∀ entry ∈ shown, Textual entry.factValue := by
    intro entry listed
    have old := (List.mem_filter.mp ((mem_sortedBy _ _ _).mp listed)).1
    have present := (HistoryQuery.mem_rows.mp old).1
    rw [entries, List.mem_singleton] at present
    rw [present]
    exact textual_str _
  obtain ⟨fingerprint, hashed⟩ := exists_hash_of_textual
    (@HistoryView.textual_payload ⟨bareQuery, ledger.communityId, shown, ""⟩
      answered)
  refine ⟨ledger, next, ⟨bareQuery, ledger.communityId, shown, fingerprint⟩,
    built, ran, ?_, ?_, ?_⟩
  · intro entry listed unlisted
    rw [entries, List.mem_singleton] at unlisted
    rw [((grown entry).mp listed).resolve_left unlisted]
    exact learnedAfter_februaryEntry _
  · refine (historicalView_eq_ok ledgerBuilt).mpr ⟨_, _, cutoffs, ?_, rfl,
      rfl, answer, hashed⟩
    intro entry listed
    have present := (HistoryQuery.mem_rows.mp listed).1
    rw [entries, List.mem_singleton] at present
    rw [present]
    rfl
  · by_contra answered
    obtain ⟨view, viewed⟩ := Option.ne_none_iff_exists'.mp answered
    rw [toOption_eq_some, historicalView_eq_ok nextBuilt] at viewed
    obtain ⟨_, _, _, readable, _⟩ := viewed
    have unreadable := readable (februaryEntry "") (HistoryQuery.mem_rows.mpr
      ⟨(grown _).mpr (.inr rfl), rfl, rfl⟩)
    exact Bool.noConfusion unreadable

end SanTanHeights.Community.History
