import SanTanHeights.Community.Knowledge

/-!
# Sealed ledgers

The fingerprint of a ledger seals its entries as they are given.  Whether they
are entries that could have been appended is known where the fingerprint is
that of a ledger that was built and appended to.
-/

namespace SanTanHeights.Community.History

open Foundation Foundation.Json Foundation.Sorting Foundation.Outcome Shared

/-! ## Ledgers that agree up to the order of keys -/

/-- Entries that differ at most in the order of the keys of their facts. -/
structure TemporalLedgerEntry.Alike (entry other : TemporalLedgerEntry) : Prop where
  fields : { entry with factValue := .null } = { other with factValue := .null }
  fact : sortKeys entry.factValue = sortKeys other.factValue

/-- Ledgers whose entries do. -/
structure TemporalLedger.Alike (ledger other : TemporalLedger) : Prop where
  ledgerId : ledger.ledgerId = other.ledgerId
  communityId : ledger.communityId = other.communityId
  entries : List.Forall₂ TemporalLedgerEntry.Alike ledger.entries other.entries

@[simp] theorem sortKeys_texts (values : List String) :
    sortKeys (texts values) = texts values := by
  simp [texts, Function.comp_def]

theorem texts_injective : Function.Injective texts := by
  intro left right equal
  exact List.map_injective_iff.mpr (fun _ _ same => Json.str.inj same) (Json.arr.inj equal)

variable {entry : TemporalLedgerEntry} {other ledger : TemporalLedger}
  {fromisoformat : FromIsoformat}

theorem TemporalLedgerEntry.Alike.of_asdict {other : TemporalLedgerEntry}
    (same : sortKeys entry.asdict = sortKeys other.asdict) :
    entry.Alike other := by
  have parts := forall₂_of_sortKeys_obj_eq same rfl (by simp [payload])
  simp only [payload, List.cons_append, List.nil_append, List.forall₂_cons,
    sortKeys_str, sortKeys_ofOptional, sortKeys_texts, Json.str.injEq,
    ofOptional_injective.eq_iff, texts_injective.eq_iff,
    List.forall₂_nil_right_iff, and_true] at parts
  obtain ⟨entryId, communityId, entryType, scope, scopeId, factKey, fact,
    validFrom, validTo, knownAt, recordedAt, truthState, source, previous,
    delta, plan, result, evidence, limitations, fingerprint⟩ := parts
  cases entry
  cases other
  dsimp only at *
  subst entryId communityId entryType scope scopeId factKey validFrom validTo
    knownAt recordedAt truthState source previous delta plan result evidence
    limitations fingerprint
  exact ⟨rfl, fact⟩

theorem TemporalLedger.Alike.of_payload
    (same : sortKeys ledger.payload = sortKeys other.payload) :
    ledger.Alike other := by
  have parts := forall₂_of_sortKeys_obj_eq same rfl (by simp)
  simp only [List.forall₂_cons, sortKeys_str, Json.str.injEq,
    List.forall₂_nil_right_iff, and_true] at parts
  obtain ⟨ledgerId, communityId, entries⟩ := parts
  have items := forall₂_of_sortKeys_arr_eq entries
  rw [List.forall₂_map_left_iff, List.forall₂_map_right_iff] at items
  exact ⟨ledgerId, communityId, items.imp fun _ _ =>
    TemporalLedgerEntry.Alike.of_asdict⟩

theorem TemporalLedgerEntry.Alike.symm
    {other : TemporalLedgerEntry} (alike : entry.Alike other) :
    other.Alike entry :=
  ⟨alike.fields.symm, alike.fact.symm⟩

theorem TemporalLedger.Alike.symm (alike : ledger.Alike other) : other.Alike ledger where
  ledgerId := alike.ledgerId.symm
  communityId := alike.communityId.symm
  entries := alike.entries.flip.imp fun _ _ => TemporalLedgerEntry.Alike.symm

/-- Every entry has one that it is like. -/
theorem TemporalLedger.Alike.exists_of_mem
    (alike : ledger.Alike other) (listed : entry ∈ ledger.entries) :
    ∃ copy ∈ other.entries, entry.Alike copy :=
  Traverse.exists_related_of_mem_left alike.entries listed

/-- What is read of the entries apart from their facts is the same. -/
theorem TemporalLedger.Alike.map_eq {α : Type*} {read : TemporalLedgerEntry → α}
    {ledger other : TemporalLedger} (alike : ledger.Alike other)
    (apart : ∀ entry : TemporalLedgerEntry, read { entry with factValue := .null } = read entry) :
    ledger.entries.map read = other.entries.map read := by
  rw [← List.forall₂_eq_eq_eq, List.forall₂_map_left_iff, List.forall₂_map_right_iff]
  refine alike.entries.imp fun entry copy found => ?_
  rw [← apart entry, found.fields, apart copy]

theorem TemporalLedgerEntry.Alike.hash_payload
    {other : TemporalLedgerEntry} (alike : entry.Alike other) :
    hash (.obj entry.payload) = hash (.obj other.payload) := by
  refine sha256Dumps_congr ?_
  obtain ⟨fields, fact⟩ := alike
  cases entry
  cases other
  simp only [TemporalLedgerEntry.mk.injEq] at fields
  obtain ⟨rfl, rfl, rfl, rfl, rfl, rfl, -, rfl, rfl, rfl, rfl, rfl, rfl, rfl,
    rfl, rfl, rfl, rfl, rfl, rfl⟩ := fields
  simp only [sortKeys_obj, payload, List.map_cons, sortKeysMember, fact]

/-! ## Well-formed ledgers -/

/-- What holds of a ledger whose history was built and appended. -/
structure TemporalLedger.WellFormed (ledger : TemporalLedger) : Prop where
  fingerprints : ∀ entry ∈ ledger.entries, hash (.obj entry.payload) = .ok entry.entryFingerprint
  distinct : (ledger.entries.map TemporalLedgerEntry.entryId).Nodup
  community : ∀ entry ∈ ledger.entries, entry.communityId = ledger.communityId
  ordered : ledger.entries.Pairwise fun left right =>
    left.sortKey ≤ right.sortKey
  linked : ∀ entry ∈ ledger.entries,
    ∀ fingerprint ∈ entry.previousEntryFingerprint,
      ∃ previous ∈ ledger.entries, previous.entryId ≠ entry.entryId ∧
        previous.entryFingerprint = fingerprint
  rebuilt : buildTemporalLedger ledger.ledgerId ledger.communityId ledger.entries = .ok ledger

theorem validateLedgerReplay_eq_ok :
    validateLedgerReplay ledger = .ok true ↔
      hash ledger.payload = .ok ledger.ledgerFingerprint := by
  simp only [validateLedgerReplay, bind_eq_ok, pure_eq_ok, decide_eq_true_eq, exists_eq_right]

/-- A ledger that replays and is like a well-formed one is well formed. -/
theorem TemporalLedger.WellFormed.of_alike (wellFormed : other.WellFormed)
    (alike : ledger.Alike other) (replays : validateLedgerReplay ledger = .ok true) :
    ledger.WellFormed := by
  have built := (buildTemporalLedger_eq_ok.mp wellFormed.rebuilt).1
  have ids := @TemporalLedger.Alike.map_eq _ TemporalLedgerEntry.entryId _ _ alike fun _ => rfl
  have keys := @TemporalLedger.Alike.map_eq _ TemporalLedgerEntry.sortKey _ _ alike fun _ => rfl
  have distinct : (ledger.entries.map TemporalLedgerEntry.entryId).Nodup := by
    rw [ids]
    exact wellFormed.distinct
  have ordered : ledger.entries.Pairwise fun left right =>
      left.sortKey ≤ right.sortKey := by
    have sorted := List.pairwise_map.mpr wellFormed.ordered
    rw [← keys] at sorted
    exact List.pairwise_map.mp sorted
  have community : ∀ entry ∈ ledger.entries,
      entry.communityId = ledger.communityId := by
    intro entry listed
    obtain ⟨copy, present, found⟩ := alike.exists_of_mem listed
    have same := congrArg TemporalLedgerEntry.communityId found.fields
    exact same.trans ((wellFormed.community copy present).trans alike.communityId.symm)
  have ledgerBuilt : ledger.Built :=
    { identified := by
        rw [alike.ledgerId, alike.communityId]
        exact built.identified
      community := community
      distinct := distinct
      ordered := ordered
      hashed := validateLedgerReplay_eq_ok.mp replays }
  refine ⟨?_, distinct, community, ordered, ?_, ledgerBuilt.rebuilds⟩
  · intro entry listed
    obtain ⟨copy, present, found⟩ := alike.exists_of_mem listed
    rw [found.hash_payload, wellFormed.fingerprints copy present]
    exact congrArg Except.ok (congrArg TemporalLedgerEntry.entryFingerprint found.fields).symm
  · intro entry listed fingerprint link
    obtain ⟨copy, present, found⟩ := alike.exists_of_mem listed
    have previousSame := congrArg TemporalLedgerEntry.previousEntryFingerprint found.fields
    change entry.previousEntryFingerprint = copy.previousEntryFingerprint
      at previousSame
    rw [previousSame] at link
    obtain ⟨target, targetPresent, different, linked⟩ :=
      wellFormed.linked copy present fingerprint link
    obtain ⟨previous, previousPresent, targetFound⟩ := alike.symm.exists_of_mem targetPresent
    refine ⟨previous, previousPresent, ?_, ?_⟩
    · intro same
      have targetId := congrArg TemporalLedgerEntry.entryId targetFound.fields
      have copyId := congrArg TemporalLedgerEntry.entryId found.fields
      exact different (targetId.trans (same.trans copyId))
    · exact (congrArg TemporalLedgerEntry.entryFingerprint targetFound.fields).symm.trans linked

/-! ## Runs -/

/-- An entry that `make_temporal_entry` made. -/
def TemporalLedgerEntry.Made
    (fromisoformat : FromIsoformat) (entry : TemporalLedgerEntry) : Prop :=
  ∃ registry given, makeTemporalEntry fromisoformat registry given = .ok entry

/-- A call that appends made entries only. -/
def LedgerCall.Made (fromisoformat : FromIsoformat) : LedgerCall → Prop
  | appendEntries newEntries =>
      ∀ entry ∈ newEntries, entry.Made fromisoformat
  | appendCorrection _ => True

theorem TemporalLedgerEntry.Made.hashed (made : entry.Made fromisoformat) :
    hash (.obj entry.payload) = .ok entry.entryFingerprint := by
  obtain ⟨registry, given, made⟩ := made
  exact hash_of_makeTemporalEntry made

/-- Appending made entries keeps a ledger well formed. -/
theorem TemporalLedger.WellFormed.append
    {next : TemporalLedger} {newEntries : List TemporalLedgerEntry}
    (wellFormed : ledger.WellFormed) (made : ∀ entry ∈ newEntries, entry.Made fromisoformat)
    (appended : appendEntries ledger newEntries = .ok next) :
    next.WellFormed := by
  obtain ⟨built, extended⟩ := extends_of_appendEntries appended
  have admitted := (appendEntries_eq_ok.mp appended).1
  refine ⟨?_, built.distinct, built.community, built.ordered, ?_, built.rebuilds⟩
  · intro entry listed
    rcases (mem_of_appendEntries appended entry).mp listed with old | new
    · exact wellFormed.fingerprints entry old
    · exact (made entry new).hashed
  · intro entry listed fingerprint link
    rcases (mem_of_appendEntries appended entry).mp listed with old | new
    · obtain ⟨previous, present, different, linked⟩ :=
        wellFormed.linked entry old fingerprint link
      exact ⟨previous, extended.kept previous present, different, linked⟩
    · have accepted := admitted entry new
      obtain ⟨previous, present, linked⟩ := accepted.linked fingerprint link
      refine ⟨previous, extended.kept previous present, ?_, linked⟩
      intro same
      exact accepted.fresh (same ▸ List.mem_map_of_mem present)

/-- So does every run of calls that append made entries. -/
theorem TemporalLedger.WellFormed.run {calls : List LedgerCall} {next : TemporalLedger}
    (wellFormed : ledger.WellFormed) (made : ∀ call ∈ calls, call.Made fromisoformat)
    (ran : runCalls fromisoformat calls ledger = .ok next) :
    next.WellFormed := by
  induction calls generalizing ledger with
  | nil =>
      cases ran
      exact wellFormed
  | cons call calls ih =>
      rw [List.forall_mem_cons] at made
      obtain ⟨state, called, rest⟩ := bind_eq_ok.mp ran
      refine ih ?_ made.2 rest
      cases call with
      | appendEntries newEntries => exact wellFormed.append made.1 called
      | appendCorrection correction =>
          obtain ⟨target, _, entry, entryMade, appended⟩ := appendCorrection_eq_ok.mp called
          have corrected : ∀ item ∈ [entry], item.Made fromisoformat := by
            rw [List.forall_mem_singleton]
            exact ⟨correction.registry, correction.entry ledger target, entryMade⟩
          exact wellFormed.append corrected appended

/-! ## Accepted ledgers -/

/-- The facts of a ledger are dictionaries whose keys differ. -/
def TemporalLedger.DistinctKeys (ledger : TemporalLedger) : Prop :=
  ∀ entry ∈ ledger.entries, entry.factValue.DistinctKeys

theorem distinctKeys_obj (members : List (String × Json)) :
    DistinctKeys (.obj members) ↔ (members.map Prod.fst).Nodup ∧
      ∀ member ∈ members, DistinctKeys member.2 :=
  all_obj _ _

theorem distinctKeys_arr (items : List Json) :
    DistinctKeys (.arr items) ↔ ∀ item ∈ items, DistinctKeys item := by
  rw [Json.DistinctKeys, all_arr]
  exact and_iff_right trivial

@[simp] theorem distinctKeys_str (value : String) : DistinctKeys (.str value) := trivial

@[simp] theorem distinctKeys_bool (value : Bool) : DistinctKeys (.bool value) := trivial

@[simp] theorem distinctKeys_ofOptional (value : Option String) :
    DistinctKeys (ofOptional value) := by
  cases value <;> trivial

@[simp] theorem distinctKeys_texts (values : List String) : DistinctKeys (texts values) := by
  simp [texts, distinctKeys_arr]

theorem TemporalLedgerEntry.distinctKeys_asdict (distinct : entry.factValue.DistinctKeys) :
    entry.asdict.DistinctKeys := by
  simp [asdict, payload, distinctKeys_obj, distinct]

theorem TemporalLedger.DistinctKeys.payload (distinct : ledger.DistinctKeys) :
    ledger.payload.DistinctKeys := by
  have entries : ∀ entry ∈ ledger.entries, entry.asdict.DistinctKeys :=
    fun entry listed =>
      TemporalLedgerEntry.distinctKeys_asdict (distinct entry listed)
  simpa [TemporalLedger.payload, distinctKeys_obj, distinctKeys_arr] using entries

/-- A ledger that replays under the fingerprint of one that was built of made
entries and appended to is that ledger, and well formed. -/
theorem accepted_ledger_wellFormed
    {fromisoformat : FromIsoformat} {ledgerId communityId : String}
    {entries : List TemporalLedgerEntry} {first ledger given : TemporalLedger}
    {calls : List LedgerCall} (made : ∀ entry ∈ entries, entry.Made fromisoformat)
    (linked : ∀ entry ∈ entries, ∀ fingerprint ∈ entry.previousEntryFingerprint,
        ∃ previous ∈ entries, previous.entryId ≠ entry.entryId ∧
          previous.entryFingerprint = fingerprint)
    (built : buildTemporalLedger ledgerId communityId entries = .ok first)
    (callsMade : ∀ call ∈ calls, call.Made fromisoformat)
    (ran : runCalls fromisoformat calls first = .ok ledger)
    (accepted : validateLedgerReplay given = .ok true)
    (sealed : given.ledgerFingerprint = ledger.ledgerFingerprint)
    (collisionFree : Sha256.CollisionFree
      (textsOf {given.payload, ledger.payload}))
    (givenKeys : given.DistinctKeys) (ledgerKeys : ledger.DistinctKeys) :
    given.Alike ledger ∧ given.WellFormed := by
  obtain ⟨firstBuilt, _, _, sorted⟩ := buildTemporalLedger_eq_ok.mp built
  have listed : ∀ entry, entry ∈ first.entries ↔ entry ∈ entries := by
    intro entry
    rw [sorted, mem_sortedBy]
  have firstFormed : first.WellFormed :=
    { fingerprints := fun entry present =>
        (made entry ((listed entry).mp present)).hashed
      distinct := firstBuilt.distinct
      community := firstBuilt.community
      ordered := firstBuilt.ordered
      linked := by
        intro entry present fingerprint link
        obtain ⟨previous, found, rest⟩ :=
          linked entry ((listed entry).mp present) fingerprint link
        exact ⟨previous, (listed previous).mpr found, rest⟩
      rebuilt := firstBuilt.rebuilds }
  have ledgerFormed := firstFormed.run callsMade ran
  have ledgerBuilt := (extends_of_runCalls firstBuilt ran).1
  have givenHashed := validateLedgerReplay_eq_ok.mp accepted
  rw [sealed] at givenHashed
  have alike : given.Alike ledger := TemporalLedger.Alike.of_payload
    (sortKeys_eq_of_sha256Dumps_eq collisionFree (.inl rfl) (.inr rfl)
      givenKeys.payload ledgerKeys.payload givenHashed ledgerBuilt.hashed)
  exact ⟨alike, ledgerFormed.of_alike alike accepted⟩

theorem accepted_ledger_wellFormed_sample :
    ∃ first second ledger calls,
      buildTemporalLedger "LEDGER" "STH" [first] = .ok second ∧
      runCalls sampleFromisoformat calls second = .ok ledger ∧
      first ∈ ledger.entries ∧ ledger.Alike ledger ∧ ledger.WellFormed := by
  obtain ⟨januaryFingerprint, januaryMade⟩ :=
    @exists_bareEntry sampleFromisoformat "FIRST"
      "2026-01-01T00:00:00+00:00" "2026-01-01T00:00:00+00:00" "PLANNED"
      1767225600 1767225600 (by decide) rfl rfl
  obtain ⟨februaryFingerprint, februaryMade⟩ :=
    @exists_bareEntry sampleFromisoformat "SECOND"
      "2026-01-01T00:00:00+00:00" "2026-02-01T00:00:00+00:00" "BUILT"
      1767225600 1769904000 (by decide) rfl rfl
  have differ : "FIRST" ≠ "SECOND" := by decide
  obtain ⟨first, ledger, built, ran, entries, grown⟩ :=
    @exists_bareRun sampleFromisoformat
      { januaryEntry with entryFingerprint := januaryFingerprint }
      { februaryEntry "2026-01-01T00:00:00+00:00" with
        entryFingerprint := februaryFingerprint }
      rfl rfl differ (textual_str _) (textual_str _) rfl
  have firstBuilt := (buildTemporalLedger_eq_ok.mp built).1
  obtain ⟨ledgerBuilt, extended⟩ := extends_of_runCalls firstBuilt ran
  have keys : ledger.DistinctKeys := by
    intro entry listed
    rcases (grown entry).mp listed with rfl | rfl
    · exact distinctKeys_str _
    · exact distinctKeys_str _
  have appended : LedgerCall.Made sampleFromisoformat (.appendEntries
      [{ februaryEntry "2026-01-01T00:00:00+00:00" with
        entryFingerprint := februaryFingerprint }]) :=
    List.forall_mem_singleton.mpr ⟨_, _, februaryMade⟩
  have sound := accepted_ledger_wellFormed
    (List.forall_mem_singleton.mpr ⟨_, _, januaryMade⟩)
    (List.forall_mem_singleton.mpr fun fingerprint missing =>
      nomatch missing)
    built (List.forall_mem_singleton.mpr appended) ran ledgerBuilt.replays rfl (collisionFree_textsOf (by simp)) keys keys
  refine ⟨_, first, ledger, _, built, ran, ?_, sound⟩
  exact extended.kept _ (by
    rw [entries]
    exact List.mem_cons_self)

/-- An entry that no function of the history made. -/
def strayEntry (validFrom : String) : TemporalLedgerEntry :=
  { bareEntry "STRAY" validFrom validFrom "BUILT" with
    communityId := "ELSEWHERE"
    previousEntryFingerprint := some "NOWHERE" }

/-- A ledger of stray entries replays under the hash of its payload. -/
theorem accepted_ledger_not_wellFormed :
    ∃ ledger : TemporalLedger, validateLedgerReplay ledger = .ok true ∧
      ledger.communityId = "STH" ∧
      ledger.entries = [strayEntry "2026-02-01T00:00:00+00:00",
        strayEntry "2026-01-01T00:00:00+00:00"] ∧
      (∀ entry ∈ ledger.entries,
        hash (.obj entry.payload) ≠ .ok entry.entryFingerprint) ∧
      ¬ (ledger.entries.map TemporalLedgerEntry.entryId).Nodup ∧
      (∀ entry ∈ ledger.entries, entry.communityId ≠ ledger.communityId) ∧
      ¬ (ledger.entries.Pairwise fun left right =>
        left.sortKey ≤ right.sortKey) ∧
      (∀ entry ∈ ledger.entries, ∃ fingerprint ∈
        entry.previousEntryFingerprint, ∀ previous ∈ ledger.entries,
          previous.entryFingerprint ≠ fingerprint) ∧
      ∀ other, buildTemporalLedger ledger.ledgerId ledger.communityId
        ledger.entries ≠ .ok other := by
  set entries := [strayEntry "2026-02-01T00:00:00+00:00",
    strayEntry "2026-01-01T00:00:00+00:00"] with strays
  have textual : ∀ entry ∈ entries, Textual entry.factValue := by
    simp only [strays, List.forall_mem_cons, List.not_mem_nil,
      IsEmpty.forall_iff, implies_true, and_true]
    exact ⟨textual_str _, textual_str _⟩
  obtain ⟨fingerprint, hashed⟩ := exists_hash_of_textual
    (@TemporalLedger.textual_payload ⟨"LEDGER", "STH", entries, ""⟩ textual)
  have foreign : ∀ entry ∈ entries, entry.communityId ≠ "STH" := by
    simp [strays, strayEntry]
  have repeated :
      ¬ (entries.map TemporalLedgerEntry.entryId).Nodup := by
    simp [strays, strayEntry, bareEntry]
  refine ⟨⟨"LEDGER", "STH", entries, fingerprint⟩,
    validateLedgerReplay_eq_ok.mpr hashed, rfl, rfl, ?_, repeated, foreign,
    ?_, ?_, ?_⟩
  · intro entry listed wrong
    obtain ⟨text, _, hash⟩ := sha256Dumps_eq_ok.mp wrong
    have shape := Sha256.isHex64_hexdigest (String.ofList text)
    rw [hash] at shape
    revert entry
    simp [strays, strayEntry, bareEntry, Sha256.isHex64]
  · simp only [strays, List.pairwise_cons]
    intro sorted
    exact absurd (sorted.1 _ List.mem_cons_self) (by decide)
  · simp [strays, strayEntry, bareEntry]
  · intro other built
    have distinct := (buildTemporalLedger_eq_ok.mp built).1.distinct
    rw [(buildTemporalLedger_eq_ok.mp built).2.2.2] at distinct
    exact repeated (((sortedBy_perm _ entries).map
      TemporalLedgerEntry.entryId).nodup_iff.mp distinct)

end SanTanHeights.Community.History
