import SanTanHeights.Foundation.Runs
import SanTanHeights.Report.Deduplication
import SanTanHeights.Report.Repository
import SanTanHeights.Shared.Spelling

/-!
# Persisting reports

The version counter of a property and a variant counts the reports there, over
all runs.  With that, a call of `persist` succeeds just when no report that is
no longer live has the input hash.
-/

namespace SanTanHeights.Report

open Foundation Foundation.Outcome Foundation.Runs Shared

/-! ## What the statements do -/

@[simp] theorem hash64_eq_ok {value field : String} {result : Unit} :
    hash64 value field = .ok result ↔ Sha256.isHex64 value = true := by
  rw [hash64, require_eq_ok]

variable {propertyId reportId : Uuid} {reportVariant : Variant}

namespace ReportTables

variable {tables next : ReportTables}

/-- The version numbers of the reports of a target, oldest first. -/
def versionsOf (tables : ReportTables) (target : Uuid × Variant) : List Nat :=
  (tables.reports.rows.filter fun report => report.target = target).map ReportVersion.versionNumber

/-- The version number that a report of a target gets next. -/
def nextVersion (tables : ReportTables) (target : Uuid × Variant) : Nat :=
  (tables.counters.find target).elim 1 VersionCounter.nextVersion

theorem insertReport_eq_ok_iff {report : ReportVersion} :
    tables.insertReport report = .ok next ↔ 1 ≤ report.versionNumber ∧
      Sha256.isHex64 report.reportInputHash = true ∧
      Sha256.isHex64 report.canonicalPayloadHash = true ∧
      Sha256.isHex64 report.dependencyManifestHash = true ∧
      (∀ stored ∈ report.storedPayloadHash, Sha256.isHex64 stored = true) ∧
      report.ReadyChecked ∧
      (∀ other ∈ tables.reports.rows, other.target = report.target →
        other.versionNumber ≠ report.versionNumber) ∧
      (∀ other ∈ tables.reports.rows, ¬other.Carries report.target report.reportInputHash) ∧
      ∃ reports, tables.reports.insert report = some reports ∧
        (report.propertyId ∈ tables.properties ∧ report.snapshotId ∈ tables.snapshots) ∧
        { tables with reports := reports } = next := by
  simp only [insertReport, bind_eq_ok, hash64_eq_ok, require_eq_ok,
    orRaise_eq_ok, exists_const, pure_eq_ok]

theorem insertDependency_eq_ok_iff {dependency : ReportDependency} :
    tables.insertDependency dependency = .ok next ↔
      Sha256.isHex64 dependency.semanticFingerprint = true ∧
      (∀ other ∈ tables.dependencies.rows, other.key ≠ dependency.key) ∧
      ∃ dependencies,
        tables.dependencies.insert dependency = some dependencies ∧
        ((tables.reports.find dependency.reportId).isSome = true ∧
          ∀ snapshotId ∈ dependency.sourceSnapshotId, snapshotId ∈ tables.snapshots) ∧
        { tables with dependencies := dependencies } = next := by
  simp only [insertDependency, bind_eq_ok, hash64_eq_ok, require_eq_ok,
    orRaise_eq_ok, exists_const, pure_eq_ok]

/-- A counter that is ensured is there, and counts as before. -/
theorem ensureCounter_eq_ok {counters : Table VersionCounter.target}
    (ensured : tables.ensureCounter propertyId reportVariant = .ok counters) :
    (counters.find (propertyId, reportVariant)).isSome = true ∧ ∀ target,
        (counters.find target).elim 1 VersionCounter.nextVersion = tables.nextVersion target := by
  unfold ensureCounter at ensured
  cases found : tables.counters.find (propertyId, reportVariant) with
  | some counter =>
      rw [found, pure_eq_ok] at ensured
      subst ensured
      exact ⟨by rw [found, Option.isSome_some], fun _ => rfl⟩
  | none =>
      rw [found] at ensured
      simp only [require_bind_eq_ok, orRaise_eq_ok] at ensured
      refine ⟨?_, fun target => ?_⟩
      · have own := Table.find_self_of_insert ensured.2
        exact Option.isSome_iff_exists.mpr ⟨_, own⟩
      · rw [Table.find_insert ensured.2, nextVersion]
        split_ifs with own
        · change (propertyId, reportVariant) = target at own
          rw [← own, found]
          rfl
        · rfl

/-- A version number is allocated. -/
structure Allocated (tables : ReportTables) (target : Uuid × Variant) (version : Nat)
    (next : ReportTables) : Prop where
  numbered : version = tables.nextVersion target
  positive : 1 ≤ version
  bounded : version + 1 < 2 ^ 63
  others : next = { tables with counters := next.counters }
  counted : ∀ other, next.nextVersion other =
    if other = target then version + 1 else tables.nextVersion other

theorem allocate_eq_ok {version : Nat}
    (allocated : tables.allocate propertyId reportVariant = .ok (version, next)) :
    Allocated tables (propertyId, reportVariant) version next := by
  simp only [allocate, bind_eq_ok, require_eq_ok, orRaise_eq_ok,
    exists_const, pure_eq_ok, Prod.mk.injEq] at allocated
  obtain ⟨counters, ensured, counter, found, positive, bounded, rfl, rfl⟩ := allocated
  have counts := (ensureCounter_eq_ok ensured).2
  refine ⟨?_, positive, bounded, rfl, fun other => ?_⟩
  · rw [← counts, found]
    rfl
  · rw [nextVersion]
    dsimp only
    rw [Table.find_update]
    split_ifs with own
    · rw [own, found, Option.map_some, if_pos (Table.key_of_find found)]
      rfl
    · rw [← counts]
      cases seen : counters.find other with
      | none => rfl
      | some row =>
          have differs : row.target ≠ (propertyId, reportVariant) := by
            rw [Table.key_of_find seen]
            exact own
          rw [Option.map_some, if_neg differs]

theorem exists_allocate (known : propertyId ∈ tables.properties)
    (positive : 1 ≤ tables.nextVersion (propertyId, reportVariant))
    (bounded : tables.nextVersion (propertyId, reportVariant) + 1 < 2 ^ 63) :
    ∃ version next, tables.allocate propertyId reportVariant = .ok (version, next) := by
  have ensured : ∃ counters,
      tables.ensureCounter propertyId reportVariant = .ok counters := by
    unfold ensureCounter
    cases found : tables.counters.find (propertyId, reportVariant) with
    | some counter => exact ⟨_, rfl⟩
    | none =>
        obtain ⟨counters, inserted⟩ : ∃ counters,
            tables.counters.insert ⟨propertyId, reportVariant, 1⟩ =
              some counters := Table.exists_insert found
        exact ⟨counters, require_bind_eq_ok.mpr ⟨known, orRaise_eq_ok.mpr inserted⟩⟩
  obtain ⟨counters, ensured⟩ := ensured
  obtain ⟨present, counts⟩ := ensureCounter_eq_ok ensured
  obtain ⟨counter, found⟩ := Option.isSome_iff_exists.mp present
  have counted := counts (propertyId, reportVariant)
  rw [found, Option.elim_some] at counted
  rw [← counted] at positive bounded
  exact ⟨_, _, bind_eq_ok.mpr ⟨counters, ensured, bind_eq_ok.mpr
    ⟨counter, orRaise_eq_ok.mpr found, bind_eq_ok.mpr
      ⟨(), require_eq_ok.mpr positive, bind_eq_ok.mpr ⟨(), require_eq_ok.mpr bounded, rfl⟩⟩⟩⟩⟩

/-- The loop adds dependencies of one report and nothing else. -/
theorem insertDependencies_eq_ok
    {newId : Nat → Uuid} {entries : List (ReportDependencyEntry × Nat)}
    (filled : tables.insertDependencies reportId newId entries = .ok next) :
    next = { tables with dependencies := next.dependencies } ∧
      ∀ dependency ∈ next.dependencies.rows,
        dependency ∈ tables.dependencies.rows ∨ ∃ item ∈ entries,
            dependency = item.1.row (newId item.2) reportId := by
  induction entries generalizing tables with
  | nil =>
      rw [insertDependencies, pure_eq_ok] at filled
      subst filled
      exact ⟨rfl, fun _ present => .inl present⟩
  | cons item entries ih =>
      obtain ⟨middle, inserted, rest⟩ := bind_eq_ok.mp filled
      obtain ⟨_, _, dependencies, added, _, rfl⟩ := insertDependency_eq_ok_iff.mp inserted
      obtain ⟨others, rows⟩ := ih rest
      refine ⟨others, fun dependency present => ?_⟩
      rcases rows dependency present with old | own
      · rw [(Table.insert_eq_some_iff.mp added).2, List.mem_append, List.mem_singleton] at old
        exact old.imp_right fun same => ⟨item, List.mem_cons_self, same⟩
      · obtain ⟨other, listed, same⟩ := own
        exact .inr ⟨other, List.mem_cons_of_mem _ listed, same⟩

/-- Entries with distinct keys are inserted for a report without
dependencies. -/
theorem exists_insertDependencies {reportId : Uuid} {newId : Nat → Uuid}
    {entries : List ReportDependencyEntry} {index bound : Nat}
    (stored : (tables.reports.find reportId).isSome = true)
    (fingerprints : ∀ entry ∈ entries, Sha256.isHex64 entry.semanticFingerprint = true)
    (sources : ∀ entry ∈ entries, ∀ snapshotId ∈ entry.sourceSnapshotId,
      snapshotId ∈ tables.snapshots)
    (distinct : (entries.map ReportDependencyEntry.key).Nodup)
    (unused : ∀ entry ∈ entries, ∀ other ∈ tables.dependencies.rows,
      other.key ≠ (reportId, entry.dependencyType, entry.dependencyId))
    (enough : index + entries.length ≤ bound) (injective : Set.InjOn newId (Set.Iio bound))
    (fresh : ∀ later, index ≤ later → later < bound →
      ∀ other ∈ tables.dependencies.rows, other.reportDependencyId ≠ newId later) :
    ∃ next, tables.insertDependencies reportId newId (entries.zipIdx index) = .ok next := by
  induction entries generalizing tables index with
  | nil => exact ⟨tables, rfl⟩
  | cons entry entries ih =>
      rw [List.forall_mem_cons] at fingerprints sources unused
      rw [List.map_cons, List.nodup_cons] at distinct
      rw [List.length_cons] at enough
      have absent : tables.dependencies.find (newId index) = none := by
        simpa [Table.find] using fresh index le_rfl (by omega)
      obtain ⟨dependencies, added⟩ : ∃ dependencies,
          tables.dependencies.insert (entry.row (newId index) reportId) =
            some dependencies := Table.exists_insert absent
      have inserted : tables.insertDependency
          (entry.row (newId index) reportId) = .ok { tables with dependencies := dependencies } :=
        insertDependency_eq_ok_iff.mpr ⟨fingerprints.1, unused.1,
          dependencies, added, ⟨stored, sources.1⟩, rfl⟩
      have rows := (Table.insert_eq_some_iff.mp added).2
      have later : ∃ next, ReportTables.insertDependencies
          { tables with dependencies := dependencies } reportId newId
          (entries.zipIdx (index + 1)) = .ok next := by
        refine @ih { tables with dependencies := dependencies }
          (index + 1) stored fingerprints.2 sources.2 distinct.2 ?_ (by omega)
          ?_
        · intro other listed row present same
          rw [rows, List.mem_append, List.mem_singleton] at present
          rcases present with old | rfl
          · exact unused.2 other listed row old same
          · apply distinct.1
            rw [List.mem_map]
            refine ⟨other, listed, ?_⟩
            rw [ReportDependency.key, Prod.mk.injEq] at same
            exact congrArg toLex same.2.symm
        · intro position after before row present
          rw [rows, List.mem_append, List.mem_singleton] at present
          rcases present with old | rfl
          · exact fresh position (by omega) before row old
          · intro same
            have inside : index ∈ Set.Iio bound := by
              rw [Set.mem_Iio]
              omega
            have equal : index = position := injective inside before same
            omega
      obtain ⟨next, rest⟩ := later
      exact ⟨next, bind_eq_ok.mpr ⟨_, inserted, rest⟩⟩

end ReportTables

/-! ## What a call does -/

section Calls

variable {schema : CanonicalReportSchema} {tables next : ReportTables}
  {command : PersistReportCommand} {newId : Nat → Uuid}
  {result : PersistReportResult}

/-- A new version is inserted with its dependencies. -/
structure InsertedVersion (tables : ReportTables) (command : PersistReportCommand)
    (newId : Nat → Uuid) (version : Nat) (payloadHash : String)
    (next : ReportTables) : Prop where
  numbered : version = tables.nextVersion command.target
  bounded : version + 1 < 2 ^ 63
  unused : ∀ report ∈ tables.reports.rows, ¬report.Carries command.target command.reportInputHash
  reports : next.reports.rows =
    tables.reports.rows ++ [command.report (newId 0) version payloadHash]
  counted : ∀ target, next.nextVersion target =
    if target = command.target then version + 1
    else tables.nextVersion target
  dependencies : ∀ dependency ∈ next.dependencies.rows,
    dependency ∈ tables.dependencies.rows ∨
      ∃ item ∈ command.dependencyManifest.entries.zipIdx 1,
        dependency = item.1.row (newId item.2) (newId 0)
  properties : next.properties = tables.properties
  snapshots : next.snapshots = tables.snapshots

theorem persistNew_eq_ok
    (persisted : persistNew schema tables command newId = .ok (result, next)) :
    ∃ version payloadHash,
      result = ⟨newId 0, some version, false, some payloadHash⟩ ∧
        InsertedVersion tables command newId version payloadHash next := by
  obtain ⟨payloadHash, _, persisted⟩ := bind_eq_ok.mp persisted
  obtain ⟨_, _, persisted⟩ := bind_eq_ok.mp persisted
  obtain ⟨⟨version, allocated⟩, numbered, persisted⟩ := bind_eq_ok.mp persisted
  obtain ⟨inserted, stored, persisted⟩ := bind_eq_ok.mp persisted
  obtain ⟨filled, listed, persisted⟩ := bind_eq_ok.mp persisted
  rw [pure_eq_ok, Prod.mk.injEq] at persisted
  obtain ⟨rfl, rfl⟩ := persisted
  have counter := ReportTables.allocate_eq_ok numbered
  obtain ⟨_, _, _, _, _, _, _, unused, reports, added, _, rfl⟩ :=
    ReportTables.insertReport_eq_ok_iff.mp stored
  obtain ⟨others, rows⟩ := ReportTables.insertDependencies_eq_ok listed
  have sameReports : allocated.reports = tables.reports := by
    rw [counter.others]
  refine ⟨version, payloadHash, rfl, ?_⟩
  exact
    { numbered := counter.numbered
      bounded := counter.bounded
      unused := sameReports ▸ unused
      reports := by
        rw [others]
        exact sameReports ▸ (Table.insert_eq_some_iff.mp added).2
      counted := by
        rw [others]
        exact counter.counted
      dependencies := by
        have same : allocated.dependencies = tables.dependencies := by
          rw [counter.others]
        exact same ▸ rows
      properties := by
        rw [others, counter.others]
      snapshots := by
        rw [others, counter.others] }

/-- A report that carries the hash of a command and is live is reused. -/
theorem persist_eq_ok (persisted : persist schema tables command newId = .ok (result, next)) :
    (∃ report ∈ tables.reports.rows, report.Carries command.target command.reportInputHash ∧
        report.Live ∧ result = ⟨report.reportId, none, true, none⟩ ∧ next = tables) ∨
      persistNew schema tables command newId = .ok (result, next) := by
  obtain ⟨duplicate, found, persisted⟩ := bind_eq_ok.mp persisted
  simp only [ReportTables.findEquivalent, bind_eq_ok, hash64_eq_ok,
    exists_const, pure_eq_ok] at found
  cases duplicate with
  | none => exact .inr persisted
  | some existing =>
      obtain ⟨report, latest, rfl⟩ := Option.map_eq_some_iff.mp found.2
      have listed := List.mem_filter.mp (List.argmax_mem latest)
      simp only [decide_eq_true_eq] at listed
      rw [pure_eq_ok, Prod.mk.injEq] at persisted
      exact .inl ⟨report, listed.1, listed.2.1, listed.2.2, persisted.1.symm, persisted.2.symm⟩

end Calls

/-! ## Invariants -/

/-- A report with its target and input hash. -/
def ReportVersion.identity (report : ReportVersion) : (Uuid × Variant) × String :=
  (report.target, report.reportInputHash)

/-- Versions are numbered from one without gaps, and the counters count
them. -/
structure Consistent (tables : ReportTables) : Prop where
  numbered : ∀ target, tables.versionsOf target = List.range' 1 (tables.versionsOf target).length
  counted : ∀ target, tables.nextVersion target = (tables.versionsOf target).length + 1
  identified : (tables.reports.rows.map ReportVersion.identity).Nodup
  owned : ∀ dependency ∈ tables.dependencies.rows,
    (tables.reports.find dependency.reportId).isSome = true

/-- Tables without reports. -/
def ReportTables.empty (properties snapshots : List Uuid) : ReportTables where
  properties := properties
  snapshots := snapshots
  reports := Table.empty _
  dependencies := Table.empty _
  counters := Table.empty _

namespace Consistent

variable {tables next : ReportTables} {command : PersistReportCommand}
  {newId : Nat → Uuid} {version : Nat} {payloadHash : String}

theorem empty (properties snapshots : List Uuid) :
    Consistent (ReportTables.empty properties snapshots) where
  numbered _ := rfl
  counted _ := rfl
  identified := List.nodup_nil
  owned := nofun

theorem versionsOf_inserted
    (inserted : InsertedVersion tables command newId version payloadHash next)
    (target : Uuid × Variant) :
    next.versionsOf target = tables.versionsOf target ++
      if target = command.target then [version] else [] := by
  rw [ReportTables.versionsOf, inserted.reports, List.filter_append, List.map_append]
  congr 1
  split_ifs with own
  · subst own
    rw [List.filter_singleton]
    simp [PersistReportCommand.report, ReportVersion.target, PersistReportCommand.target]
  · have other : (command.report (newId 0) version payloadHash).target ≠
        target := fun same => own same.symm
    simp [other]

theorem of_inserted (consistent : Consistent tables)
    (inserted : InsertedVersion tables command newId version payloadHash next) :
    Consistent next where
  numbered target := by
    rw [versionsOf_inserted inserted]
    split_ifs with own
    · subst own
      rw [List.length_append, List.length_singleton, List.range'_concat,
        ← consistent.numbered, inserted.numbered, consistent.counted, Nat.one_mul, Nat.add_comm]
    · rw [List.append_nil]
      exact consistent.numbered target
  counted target := by
    rw [versionsOf_inserted inserted, inserted.counted]
    split_ifs with own
    · subst own
      rw [List.length_append, List.length_singleton, inserted.numbered, consistent.counted]
    · rw [List.append_nil]
      exact consistent.counted target
  identified := by
    rw [inserted.reports, List.map_append, List.nodup_append]
    refine ⟨consistent.identified, List.nodup_singleton _, ?_⟩
    rintro old present new added rfl
    obtain ⟨report, listed, same⟩ := List.mem_map.mp present
    rw [List.map_singleton, List.mem_singleton] at added
    rw [← same, ReportVersion.identity, ReportVersion.identity, Prod.mk.injEq] at added
    exact inserted.unused report listed added
  owned := by
    intro dependency present
    rw [Option.isSome_iff_exists]
    rcases inserted.dependencies dependency present with old | own
    · obtain ⟨report, found⟩ := Option.isSome_iff_exists.mp (consistent.owned dependency old)
      obtain ⟨listed, same⟩ := Table.find_eq_some_iff.mp found
      refine ⟨report, Table.find_eq_some_iff.mpr ⟨?_, same⟩⟩
      rw [inserted.reports]
      exact List.mem_append_left _ listed
    · obtain ⟨item, _, rfl⟩ := own
      refine ⟨command.report (newId 0) version payloadHash, Table.find_eq_some_iff.mpr ⟨?_, rfl⟩⟩
      rw [inserted.reports]
      exact List.mem_append_right _ (List.mem_singleton_self _)

end Consistent

/-! ## Calls that are answered -/

/-- A command that the checks of the service and of the tables accept. -/
structure PersistReportCommand.Valid (schema : CanonicalReportSchema) (tables : ReportTables)
    (command : PersistReportCommand) : Prop where
  property : command.propertyId ∈ tables.properties
  snapshot : command.snapshotId ∈ tables.snapshots
  inputHash : Sha256.isHex64 command.reportInputHash = true
  manifestHash : Sha256.isHex64 command.dependencyManifest.manifestHash = true
  fingerprints : ∀ entry ∈ command.dependencyManifest.entries,
    Sha256.isHex64 entry.semanticFingerprint = true
  sources : ∀ entry ∈ command.dependencyManifest.entries,
    ∀ snapshotId ∈ entry.sourceSnapshotId, snapshotId ∈ tables.snapshots
  distinct : (command.dependencyManifest.entries.map ReportDependencyEntry.key).Nodup
  payload : ∃ payloadHash,
    calculatePayloadHash schema command.canonicalPayload = .ok payloadHash
  consistent : command.checkPayload = .ok ()

/-- The first identifiers that `uuid4` returns are new. -/
structure FreshIds (tables : ReportTables) (newId : Nat → Uuid) (count : Nat) : Prop where
  injective : Set.InjOn newId (Set.Iio (1 + count))
  report : tables.reports.find (newId 0) = none
  dependencies : ∀ index < 1 + count, ∀ dependency ∈ tables.dependencies.rows,
      dependency.reportDependencyId ≠ newId index

section Answers

variable {schema : CanonicalReportSchema} {tables : ReportTables}
  {command : PersistReportCommand} {newId : Nat → Uuid}

theorem isHex64_of_calculatePayloadHash {payload : List (String × Json)} {payloadHash : String}
    (calculated : calculatePayloadHash schema payload = .ok payloadHash) :
    Sha256.isHex64 payloadHash = true := by
  obtain ⟨_, _, hashed⟩ := bind_eq_ok.mp calculated
  obtain ⟨text, _, rfl⟩ := sha256Canonical_eq_ok.mp hashed
  exact Sha256.isHex64_hexdigest text

/-- A version of a target is smaller than the next one. -/
theorem Consistent.versionNumber_lt (consistent : Consistent tables) {report : ReportVersion}
    (listed : report ∈ tables.reports.rows) :
    report.versionNumber < tables.nextVersion report.target := by
  have present : report.versionNumber ∈ tables.versionsOf report.target := by
    unfold ReportTables.versionsOf
    apply List.mem_map_of_mem
    rw [List.mem_filter]
    exact ⟨listed, decide_eq_true rfl⟩
  rw [consistent.numbered, List.mem_range'_1] at present
  rw [consistent.counted]
  omega

theorem exists_persistNew (consistent : Consistent tables) (valid : command.Valid schema tables)
    (fresh : FreshIds tables newId command.dependencyManifest.entries.length)
    (unused : ∀ report ∈ tables.reports.rows,
      ¬report.Carries command.target command.reportInputHash)
    (bounded : tables.nextVersion command.target + 1 < 2 ^ 63) :
    ∃ result next, persistNew schema tables command newId = .ok (result, next) := by
  obtain ⟨payloadHash, calculated⟩ := valid.payload
  have positive : 1 ≤ tables.nextVersion command.target := by
    rw [consistent.counted]
    omega
  obtain ⟨version, allocated, numbered⟩ :=
    ReportTables.exists_allocate valid.property positive bounded
  have counter := ReportTables.allocate_eq_ok numbered
  have hex := isHex64_of_calculatePayloadHash calculated
  obtain ⟨reports, added⟩ : ∃ reports, tables.reports.insert
      (command.report (newId 0) version payloadHash) = some reports :=
    Table.exists_insert fresh.report
  have others := counter.others
  generalize allocated.counters = counters at others
  subst others
  have stored : ReportTables.insertReport
      { tables with counters := counters }
      (command.report (newId 0) version payloadHash) =
        .ok { tables with counters := counters, reports := reports } := by
    refine ReportTables.insertReport_eq_ok_iff.mpr
      ⟨counter.positive, valid.inputHash, hex, valid.manifestHash, ?_,
        .inl nofun, ?_, unused, reports, added, ⟨valid.property, valid.snapshot⟩, rfl⟩
    · rintro _ ⟨⟩
      exact hex
    · intro other listed same
      have smaller := consistent.versionNumber_lt listed
      rw [same] at smaller
      change other.versionNumber ≠ version
      rw [counter.numbered]
      exact smaller.ne
  have found : ∃ report, reports.find (newId 0) = some report :=
    ⟨_, Table.find_self_of_insert added⟩
  have listed : ∃ next, ReportTables.insertDependencies
      { tables with counters := counters, reports := reports } (newId 0)
      newId (command.dependencyManifest.entries.zipIdx 1) = .ok next := by
    refine @ReportTables.exists_insertDependencies
      { tables with counters := counters, reports := reports } _ _ _ _ _
      (Option.isSome_iff_exists.mpr found) valid.fingerprints valid.sources
      valid.distinct ?_ le_rfl fresh.injective ?_
    · intro entry _ other present same
      have owned := consistent.owned other present
      rw [show other.reportId = newId 0 from congrArg Prod.fst same, fresh.report] at owned
      cases owned
    · exact fun index _ => fresh.dependencies index
  obtain ⟨next, filled⟩ := listed
  exact ⟨_, next, bind_eq_ok.mpr ⟨payloadHash, calculated,
    bind_eq_ok.mpr ⟨(), valid.consistent, bind_eq_ok.mpr
      ⟨_, numbered, bind_eq_ok.mpr ⟨_, stored, bind_eq_ok.mpr ⟨next, filled, rfl⟩⟩⟩⟩⟩⟩

theorem persist_of_live (hashed : Sha256.isHex64 command.reportInputHash = true)
    (live : ∃ report ∈ tables.reports.rows,
      report.Carries command.target command.reportInputHash ∧ report.Live) :
    ∃ report ∈ tables.reports.rows,
      report.Carries command.target command.reportInputHash ∧
        report.Live ∧ persist schema tables command newId =
          .ok (⟨report.reportId, none, true, none⟩, tables) := by
  obtain ⟨report, listed, carries, alive⟩ := live
  have kept : report ∈ tables.reports.rows.filter fun other =>
      other.Carries command.target command.reportInputHash ∧ other.Live := by
    rw [List.mem_filter]
    exact ⟨listed, decide_eq_true ⟨carries, alive⟩⟩
  cases latest : (tables.reports.rows.filter fun other =>
      other.Carries command.target command.reportInputHash ∧
        other.Live).argmax ReportVersion.versionNumber with
  | none =>
      rw [List.argmax_eq_none.mp latest] at kept
      cases kept
  | some found =>
      have member := List.mem_filter.mp (List.argmax_mem latest)
      simp only [decide_eq_true_eq] at member
      refine ⟨found, member.1, member.2.1, member.2.2, ?_⟩
      refine bind_eq_ok.mpr ⟨some found.reportId, ?_, rfl⟩
      refine bind_eq_ok.mpr ⟨(), hash64_eq_ok.mpr hashed, ?_⟩
      exact pure_eq_ok.mpr (congrArg (Option.map _) latest)

theorem persist_of_unused (hashed : Sha256.isHex64 command.reportInputHash = true)
    (unused : ∀ report ∈ tables.reports.rows,
      ¬report.Carries command.target command.reportInputHash) :
    persist schema tables command newId = persistNew schema tables command newId := by
  have absent : (tables.reports.rows.filter fun other =>
      other.Carries command.target command.reportInputHash ∧ other.Live) = [] := by
    rw [List.filter_eq_nil_iff]
    intro report listed
    simp [unused report listed]
  have found : tables.findEquivalent command.propertyId
      command.reportVariant command.reportInputHash = .ok none := by
    refine bind_eq_ok.mpr ⟨(), hash64_eq_ok.mpr hashed, ?_⟩
    exact pure_eq_ok.mpr
      (congrArg (fun found => (List.argmax ReportVersion.versionNumber
        found).map ReportVersion.reportId) absent)
  rw [persist, found]
  rfl

end Answers

/-! ## Runs -/

/-- The columns that change after an insert. -/
structure ReportStatus where
  contentState : ContentState
  healthState : HealthState
  qaStatus : QaStatus
  qaCompletedAt : Option Time
  publicationEligible : Bool

def ReportVersion.withStatus (report : ReportVersion) (status : ReportStatus) : ReportVersion :=
  { report with
    contentState := status.contentState
    healthState := status.healthState
    qaStatus := status.qaStatus
    qaCompletedAt := status.qaCompletedAt
    publicationEligible := status.publicationEligible }

theorem ReportVersion.reportId_withStatus (report : ReportVersion) (status : ReportStatus) :
    (report.withStatus status).reportId = report.reportId := rfl

/-- An `UPDATE` of the state of a report. -/
def ReportTables.mark (tables : ReportTables) (reportId : Uuid) (status : ReportStatus) :
    Except String ReportTables := do
  require (∀ report ∈ tables.reports.rows, report.reportId = reportId →
      (report.withStatus status).ReadyChecked)
    "chk_ready_report_qa"
  return { tables with
    reports := tables.reports.update (fun row => row.reportId = reportId)
      (fun row => row.withStatus status)
      fun row => row.reportId_withStatus status }

/-- What happens to the tables. -/
inductive ReportEvent where
  | persist (schema : CanonicalReportSchema) (command : PersistReportCommand) (newId : Nat → Uuid)
  | mark (reportId : Uuid) (status : ReportStatus)
  | refer (properties snapshots : List Uuid)

/-- A transaction that commits. -/
def ReportStep (before : ReportTables) (event : ReportEvent) (after : ReportTables) : Prop :=
  match event with
  | .persist schema command newId =>
      ∃ result, persist schema before command newId = .ok (result, after)
  | .mark reportId status => before.mark reportId status = .ok after
  | .refer properties snapshots =>
      after = { before with
        properties := before.properties ++ properties
        snapshots := before.snapshots ++ snapshots }

namespace Consistent

variable {tables next : ReportTables}

theorem versionsOf_eq (tables : ReportTables) (target : Uuid × Variant) :
    tables.versionsOf target = ((tables.reports.rows.map fun report =>
        (report.target, report.versionNumber)).filter fun entry =>
          entry.1 = target).map Prod.snd := by
  rw [List.filter_map, List.map_map]
  rfl

/-- What the state of a report leaves is left by an update of it. -/
theorem map_rows_mark {ν : Type} {field : ReportVersion → ν} {status : ReportStatus}
    (same : ∀ report : ReportVersion, field (report.withStatus status) = field report)
    (marked : tables.mark reportId status = .ok next) :
    next.reports.rows.map field = tables.reports.rows.map field := by
  rw [ReportTables.mark, require_bind_eq_ok, pure_eq_ok] at marked
  obtain ⟨_, rfl⟩ := marked
  exact Table.map_rows_update same fun row => row.reportId_withStatus status

theorem of_mark {status : ReportStatus} (consistent : Consistent tables)
    (marked : tables.mark reportId status = .ok next) :
    Consistent next := by
  have versions : next.versionsOf = tables.versionsOf := by
    funext target
    rw [versionsOf_eq, versionsOf_eq, map_rows_mark (fun _ => rfl) marked]
  have identities := map_rows_mark (show ∀ report : ReportVersion,
      (report.withStatus status).identity = report.identity from fun _ => rfl) marked
  rw [ReportTables.mark, require_bind_eq_ok, pure_eq_ok] at marked
  obtain ⟨_, rfl⟩ := marked
  constructor
  · rw [versions]
    exact consistent.numbered
  · rw [versions]
    exact consistent.counted
  · rw [identities]
    exact consistent.identified
  · intro dependency present
    rw [Table.find_update, Option.isSome_map]
    exact consistent.owned dependency present

theorem of_step {before after : ReportTables} {event : ReportEvent}
    (consistent : Consistent before) (taken : ReportStep before event after) :
    Consistent after := by
  cases event with
  | persist schema command newId =>
      obtain ⟨result, persisted⟩ := taken
      rcases persist_eq_ok persisted with ⟨_, _, _, _, _, rfl⟩ | inserted
      · exact consistent
      · obtain ⟨_, _, _, added⟩ := persistNew_eq_ok inserted
        exact consistent.of_inserted added
  | mark reportId status => exact consistent.of_mark taken
  | refer properties snapshots =>
      rw [show after = _ from taken]
      exact ⟨consistent.numbered, consistent.counted, consistent.identified, consistent.owned⟩

end Consistent

theorem consistent_of_run {properties snapshots : List Uuid} {events : List ReportEvent}
    {tables : ReportTables}
    (run : Exec ReportStep (.empty properties snapshots) events tables) :
    Consistent tables :=
  run.invariant (Consistent.empty properties snapshots)
    fun _ _ _ consistent taken => consistent.of_step taken

/-- Versions stay without gaps, and a stored report is left but for its state. -/
theorem reports_kept {properties snapshots : List Uuid} {earlier later : List ReportEvent}
    {before after : ReportTables}
    (reached : Exec ReportStep (.empty properties snapshots) earlier before)
    (continued : Exec ReportStep before later after) :
    (∀ target, after.versionsOf target = List.range' 1 (after.versionsOf target).length) ∧
      ∀ report ∈ before.reports.rows, ∃ status, report.withStatus status ∈ after.reports.rows := by
  refine ⟨(consistent_of_run (reached.append continued)).numbered, fun report stored => ?_⟩
  refine @Exec.invariant _ _ _ _ _ _ (fun tables : ReportTables =>
    ∃ status, report.withStatus status ∈ tables.reports.rows) continued ?_ ?_
  · exact ⟨⟨report.contentState, report.healthState, report.qaStatus, report.qaCompletedAt,
      report.publicationEligible⟩, stored⟩
  rintro middle event next ⟨status, kept⟩ taken
  cases event with
  | persist schema command newId =>
      obtain ⟨result, persisted⟩ := taken
      rcases persist_eq_ok persisted with ⟨_, _, _, _, _, rfl⟩ | inserted
      · exact ⟨status, kept⟩
      · obtain ⟨_, _, _, added⟩ := persistNew_eq_ok inserted
        exact ⟨status, added.reports ▸ List.mem_append_left _ kept⟩
  | mark reportId changed =>
      simp only [ReportStep, ReportTables.mark, require_bind_eq_ok, pure_eq_ok] at taken
      obtain ⟨-, rfl⟩ := taken
      have updated := List.mem_map_of_mem (f := fun row : ReportVersion =>
        if row.reportId = reportId then row.withStatus changed else row) kept
      split_ifs at updated
      · exact ⟨changed, updated⟩
      · exact ⟨status, updated⟩
  | refer properties snapshots =>
      rw [show next = _ from taken]
      exact ⟨status, kept⟩

/-! ## Totality -/

/-- A call returns a live report with the input hash, or inserts one new
version with the next number. -/
def Served (schema : CanonicalReportSchema) (tables : ReportTables)
    (command : PersistReportCommand) (newId : Nat → Uuid) : Prop :=
  (∃ report ∈ tables.reports.rows,
    report.Carries command.target command.reportInputHash ∧ report.Live ∧
      persist schema tables command newId = .ok (⟨report.reportId, none, true, none⟩, tables)) ∨
    ∃ version payloadHash next, persist schema tables command newId =
          .ok (⟨newId 0, some version, false, some payloadHash⟩, next) ∧
        next.reports.rows = tables.reports.rows ++
            [command.report (newId 0) version payloadHash] ∧
          next.versionsOf command.target = List.range' 1 version

/-- Where a call is served, no report with its input hash has left the live
states. -/
theorem live_of_served {schema : CanonicalReportSchema} {tables : ReportTables}
    {command : PersistReportCommand} {newId : Nat → Uuid}
    (consistent : Consistent tables) (served : Served schema tables command newId)
    {other : ReportVersion} (otherListed : other ∈ tables.reports.rows)
    (otherCarries : other.Carries command.target command.reportInputHash) :
    other.Live := by
  rcases served with ⟨report, listed, carries, live, _⟩ |
    ⟨version, payloadHash, next, persisted, _⟩
  · have same := List.inj_on_of_nodup_map consistent.identified
      otherListed listed
      (Prod.ext (otherCarries.1.trans carries.1.symm) (otherCarries.2.trans carries.2.symm))
    exact same ▸ live
  · rcases persist_eq_ok persisted with ⟨_, _, _, _, reused, _⟩ | inserted
    · have equal := congrArg PersistReportResult.reusedExisting reused
      cases equal
    · obtain ⟨_, _, _, added⟩ := persistNew_eq_ok inserted
      exact absurd otherCarries (added.unused other otherListed)

/-- In a reachable table, a valid command is served just when no report with
its input hash has left the live states and a new version has a number. -/
theorem persist_total_iff {properties snapshots : List Uuid} {events : List ReportEvent}
    {tables : ReportTables} {schema : CanonicalReportSchema}
    {command : PersistReportCommand} {newId : Nat → Uuid}
    (run : Exec ReportStep (.empty properties snapshots) events tables)
    (valid : command.Valid schema tables)
    (fresh : FreshIds tables newId command.dependencyManifest.entries.length) :
    Served schema tables command newId ↔ (∀ report ∈ tables.reports.rows,
        report.Carries command.target command.reportInputHash →
          report.Live) ∧
      ((∃ report ∈ tables.reports.rows,
        report.Carries command.target command.reportInputHash) ∨
          (tables.versionsOf command.target).length + 2 < 2 ^ 63) := by
  have consistent := consistent_of_run run
  constructor
  · intro served
    refine ⟨fun other => live_of_served consistent served, ?_⟩
    rcases served with ⟨report, listed, carries, _⟩ |
      ⟨version, payloadHash, next, persisted, _⟩
    · exact .inl ⟨report, listed, carries⟩
    · rcases persist_eq_ok persisted with ⟨report, listed, carries, _⟩ |
        inserted
      · exact .inl ⟨report, listed, carries⟩
      · obtain ⟨_, _, _, added⟩ := persistNew_eq_ok inserted
        have bounded := added.bounded
        rw [added.numbered, consistent.counted] at bounded
        exact .inr bounded
  · rintro ⟨allLive, room⟩
    by_cases used : ∃ report ∈ tables.reports.rows,
      report.Carries command.target command.reportInputHash
    · obtain ⟨report, listed, carries⟩ := used
      exact .inl (persist_of_live valid.inputHash
        ⟨report, listed, carries, allLive report listed carries⟩)
    · have unused : ∀ report ∈ tables.reports.rows,
          ¬report.Carries command.target command.reportInputHash :=
        fun report listed carries => used ⟨report, listed, carries⟩
      have bounded := room.resolve_left used
      obtain ⟨result, next, inserted⟩ := exists_persistNew consistent valid
        fresh unused (by rwa [consistent.counted])
      obtain ⟨version, payloadHash, rfl, added⟩ := persistNew_eq_ok inserted
      have after := consistent.of_inserted added
      refine .inr ⟨version, payloadHash, next,
        (persist_of_unused valid.inputHash unused).trans inserted,
        added.reports, ?_⟩
      rw [after.numbered, Consistent.versionsOf_inserted added, if_pos rfl,
        List.length_append, List.length_singleton, added.numbered,
        consistent.counted]

/-- Sixty-four zeros. -/
def zeroHash : String :=
  String.ofList (List.replicate 64 '0')

/-- The payload of a report without findings. -/
def barePayload : List (String × Json) :=
  let parts := (sampleConfig.sections.forVariant .pub).map
    (sectionOf (bareInputs "A disclaimer.") [])
  payloadObject (bareInputs "A disclaimer.") [] (parts.map Prod.fst)
    (parts.map Prod.snd).flatten (sampleConfig.glossary.resolve [] .pub)
    zeroHash

/-- A command for a report without dependencies. -/
def bareCommand : PersistReportCommand where
  propertyId := 2
  reportVariant := .pub
  snapshotId := 1
  reportSchemaVersion := "1.0.0"
  contentContractVersion := "1.0.0"
  variantPolicyVersion := "1.0.0"
  builderVersion := "0.1.19"
  reportInputHash := zeroHash
  canonicalPayload := barePayload
  dependencyManifest := ⟨[], zeroHash⟩
  generationReason := "INITIAL"
  createdBy := "REPORT_BUILDER"

theorem valid_bareCommand {tables : ReportTables}
    (property : ⟨2, by decide⟩ ∈ tables.properties)
    (snapshot : ⟨1, by decide⟩ ∈ tables.snapshots) :
    bareCommand.Valid sampleConfig.schema tables where
  property := property
  snapshot := snapshot
  inputHash := Sha256.isHex64_ofList rfl rfl
  manifestHash := Sha256.isHex64_ofList rfl rfl
  fingerprints := nofun
  sources := nofun
  distinct := List.nodup_nil
  payload := by
    obtain ⟨fingerprint, hashed⟩ := exists_sha256Canonical_of_spelled
      (show Spelled (.obj barePayload) _ by repeat' constructor)
    exact ⟨fingerprint, bind_eq_ok.mpr ⟨(), validate_bareInputs _ _, hashed⟩⟩
  consistent := rfl

/-- One property and one snapshot, and no report. -/
def bareTables : ReportTables :=
  .empty [2] [1]

theorem freshIds_bareCommand {tables : ReportTables} {identifier : Uuid}
    (report : tables.reports.find identifier = none)
    (dependencies : ∀ dependency ∈ tables.dependencies.rows,
      dependency.reportDependencyId ≠ identifier) :
    FreshIds tables (fun _ => identifier) bareCommand.dependencyManifest.entries.length where
  injective := by
    rw [show bareCommand.dependencyManifest.entries = [] from rfl, List.length_nil]
    intro left leftInside right rightInside _
    rw [Set.mem_Iio] at leftInside rightInside
    omega
  report := report
  dependencies := fun _ _ => dependencies

theorem freshIds_bareTables (identifier : Uuid) :
    FreshIds bareTables (fun _ => identifier) bareCommand.dependencyManifest.entries.length :=
  freshIds_bareCommand rfl nofun

theorem unused_bareTables :
    ∀ report ∈ bareTables.reports.rows,
      ¬report.Carries bareCommand.target bareCommand.reportInputHash :=
  fun _ listed => absurd listed List.not_mem_nil

theorem valid_bareTables : bareCommand.Valid sampleConfig.schema bareTables := by
  apply valid_bareCommand
  · exact List.mem_cons_self
  · exact List.mem_cons_self

theorem nextVersion_bareTables : bareTables.nextVersion bareCommand.target + 1 < 2 ^ 63 := by
  rw [show bareTables.nextVersion bareCommand.target = 1 from rfl]
  omega

theorem persist_total_iff_sample :
    Served sampleConfig.schema bareTables bareCommand
      fun _ => ⟨7, by decide⟩ := by
  apply (persist_total_iff (.nil _) valid_bareTables
    (freshIds_bareTables _)).mpr
  constructor
  · exact fun report listed carries =>
      absurd carries (unused_bareTables report listed)
  · right
    change (bareTables.versionsOf bareCommand.target).length + 2 < _
    rw [show bareTables.versionsOf bareCommand.target = [] from rfl,
      List.length_nil]
    omega

/-- A report that went stale. -/
def staleStatus : ReportStatus where
  contentState := .stale
  healthState := .stale
  qaStatus := .pending
  qaCompletedAt := none
  publicationEligible := false

/-- A report that went stale blocks every rebuild with its input hash. -/
theorem persist_not_total :
    ∃ events tables, Exec ReportStep bareTables events tables ∧
        bareCommand.Valid sampleConfig.schema tables ∧
          FreshIds tables (fun _ => ⟨8, by decide⟩)
              bareCommand.dependencyManifest.entries.length ∧
            ¬Served sampleConfig.schema tables bareCommand
              fun _ => ⟨8, by decide⟩ := by
  have consistent : Consistent bareTables := .empty _ _
  obtain ⟨result, stored, persisted⟩ := exists_persistNew consistent
    valid_bareTables (freshIds_bareTables ⟨7, by decide⟩)
    unused_bareTables nextVersion_bareTables
  obtain ⟨version, payloadHash, rfl, added⟩ := persistNew_eq_ok persisted
  have served : ReportStep bareTables
      (.persist sampleConfig.schema bareCommand fun _ => ⟨7, by decide⟩)
      stored :=
    ⟨_, (persist_of_unused valid_bareTables.inputHash
      unused_bareTables).trans persisted⟩
  have dependencies : ∀ dependency ∈ stored.dependencies.rows,
      dependency.reportDependencyId ≠ ⟨8, by decide⟩ := by
    intro dependency present
    rcases added.dependencies dependency present with old | ⟨_, new, _⟩
    · exact absurd old List.not_mem_nil
    · exact absurd new List.not_mem_nil
  have marked : stored.mark ⟨7, by decide⟩ staleStatus = .ok { stored with
      reports := stored.reports.update
        (fun row => row.reportId = ⟨7, by decide⟩)
        (fun row => row.withStatus staleStatus)
        fun row => row.reportId_withStatus staleStatus } :=
    require_bind_eq_ok.mpr ⟨fun _ _ _ => .inl nofun, rfl⟩
  have outdated : ReportStep stored (.mark ⟨7, by decide⟩ staleStatus) _ :=
    marked
  refine ⟨_, _, .cons served (.single outdated), ?_, ?_, ?_⟩
  · exact valid_bareCommand (added.properties ▸ List.mem_cons_self)
      (added.snapshots ▸ List.mem_cons_self)
  · apply freshIds_bareCommand
    · rw [Table.find_update, Table.find, added.reports]
      rfl
    · exact dependencies
  · intro again
    have kept := (consistent.of_inserted added).of_mark marked
    have listed : bareCommand.report ⟨7, by decide⟩ version payloadHash ∈
        stored.reports.rows := by
      rw [added.reports]
      exact List.mem_append_right _ List.mem_cons_self
    have live := live_of_served kept again
      (List.mem_map.mpr ⟨_, listed, if_pos rfl⟩) ⟨rfl, rfl⟩
    apply live
    change ContentState.stale ∈ excludedStates
    decide

theorem reports_kept_sample :
    ∃ (report : ReportVersion) (after : ReportTables) (status : ReportStatus),
      report.withStatus status ∈ after.reports.rows := by
  obtain ⟨result, stored, persisted⟩ := exists_persistNew (.empty _ _) valid_bareTables
    (freshIds_bareTables 7) unused_bareTables nextVersion_bareTables
  obtain ⟨version, payloadHash, rfl, added⟩ := persistNew_eq_ok persisted
  have served : ReportStep bareTables (.persist sampleConfig.schema bareCommand fun _ => 7)
      stored :=
    ⟨_, (persist_of_unused valid_bareTables.inputHash unused_bareTables).trans persisted⟩
  exact ⟨_, stored, (reports_kept (.single served) (.nil stored)).2 _
    (added.reports ▸ List.mem_concat_self)⟩

end SanTanHeights.Report
