import SanTanHeights.Foundation.Keyed
import SanTanHeights.Report.Selection
import SanTanHeights.Shared.Textual

/-!
# Report dependency manifests

`ReportDependencyManifestBuilder.build` lists what one report consumes: for
every selected finding the finding, its passport and its wording, and the
versions of the governed configuration.
-/

namespace SanTanHeights.Report

open Foundation Foundation.Sorting Foundation.Outcome Shared Snapshot

structure ReportDependencyEntry where
  dependencyType : String
  dependencyId : String
  semanticFingerprint : String
  dependencyVersion : String
  sourceSnapshotId : Option Uuid
  deriving DecidableEq

namespace ReportDependencyEntry

/-- `semantic_projection`. -/
def semanticProjection (entry : ReportDependencyEntry) : Json :=
  .obj [("dependency_type", .str entry.dependencyType),
      ("dependency_id", .str entry.dependencyId),
      ("semantic_fingerprint", .str entry.semanticFingerprint),
      ("dependency_version", .str entry.dependencyVersion)]

/-- The key of an entry in the manifest. -/
def key (entry : ReportDependencyEntry) : String ×ₗ String :=
  toLex (entry.dependencyType, entry.dependencyId)

end ReportDependencyEntry

structure ReportDependencyManifest where
  entries : List ReportDependencyEntry
  manifestHash : String

/-- `ReportDependencyManifest.semantic_projection`. -/
def ReportDependencyManifest.semanticProjection (manifest : ReportDependencyManifest) : Json :=
  .arr (manifest.entries.map ReportDependencyEntry.semanticProjection)

/-- The governed configuration, as a report names it. -/
structure ReportVersions where
  reportSchemaVersion : String
  contentContractVersion : String
  variantPolicyId : String
  variantPolicyVersion : String
  sectionRegistryId : String
  sectionRegistryVersion : String
  friendlyLabelRegistryId : String
  friendlyLabelVersion : String
  glossaryRegistryId : String
  glossaryVersion : String
  deriving DecidableEq, Repr

/-- `sha256_canonical` of the wording of a finding. -/
def wordingHash (wording : ResolvedWording) : Except String String :=
  sha256Canonical (.obj [("text", .str wording.text), ("version", .str wording.version)])

/-- The entries of one selected finding. -/
def findingDependencies (snapshotId : Uuid) (finding : SnapshotFindingRecord)
    (wording : ResolvedWording) :
    Except String (List ReportDependencyEntry) := do
  let fingerprint ← wordingHash wording
  return [
    { dependencyType := "PRODUCTION_FINDING"
      dependencyId := finding.finding.findingId
      semanticFingerprint := finding.finding.semanticFingerprint
      dependencyVersion := "semantic-v1"
      sourceSnapshotId := some snapshotId },
    { dependencyType := "PASSPORT"
      dependencyId := finding.finding.passportId
      semanticFingerprint := finding.passportSemanticFingerprint
      dependencyVersion := finding.finding.passportVersion
      sourceSnapshotId := some snapshotId },
    { dependencyType := "APPROVED_WORDING"
      dependencyId := finding.finding.findingId
      semanticFingerprint := fingerprint
      dependencyVersion := wording.version
      sourceSnapshotId := some snapshotId }]

/-- The loop over the selections, with the findings seen so far. -/
def selectionDependencies
    (snapshotId : Uuid) (wordings : WordingByFinding) (seen : List String) :
    List FindingSelection → Except String (List ReportDependencyEntry)
  | [] => .ok []
  | selection :: selections => do
      require (selection.findingId ∉ seen)
        ("duplicate consumed finding: " ++ selection.findingId)
      let wording ← orRaise (wordings.lookup selection.findingId)
        ("missing resolved wording dependency for finding " ++ selection.findingId)
      let entries ← findingDependencies snapshotId selection.finding wording
      let others ← selectionDependencies snapshotId wordings
        (selection.findingId :: seen) selections
      return entries ++ others

/-- `config_entries`. -/
def ReportVersions.configEntries (versions : ReportVersions) :
    List (String × String × String) :=
  [("REPORT_SCHEMA", "canonical-report", versions.reportSchemaVersion),
    ("CONTENT_CONTRACT", "report-content", versions.contentContractVersion),
    ("VARIANT_POLICY", versions.variantPolicyId, versions.variantPolicyVersion),
    ("REPORT_SECTIONS", versions.sectionRegistryId, versions.sectionRegistryVersion),
    ("FRIENDLY_LABELS", versions.friendlyLabelRegistryId, versions.friendlyLabelVersion),
    ("GLOSSARY", versions.glossaryRegistryId, versions.glossaryVersion)]

/-- The entry of one configuration item. -/
def configDependency (item : String × String × String) :
    Except String ReportDependencyEntry := do
  let (dependencyType, dependencyId, version) := item
  require (Text.isBlank version = false)
    ("missing dependency version: " ++ dependencyType)
  let fingerprint ← sha256Canonical
    (.obj [("id", .str dependencyId), ("version", .str version)])
  return {
    dependencyType := dependencyType
    dependencyId := dependencyId
    semanticFingerprint := fingerprint
    dependencyVersion := version
    sourceSnapshotId := none }

/-- `unique[key] = entry`, unless a different entry is there. -/
def addUnique (unique : List ReportDependencyEntry) (entry : ReportDependencyEntry) :
    Except String (List ReportDependencyEntry) :=
  orRaise (Keyed.insertUnique ReportDependencyEntry.key unique entry)
    ("conflicting dependency entry: " ++ entry.dependencyType ++ ":" ++ entry.dependencyId)

/-- Hash the unique entries, in order. -/
def manifestOf (entries : List ReportDependencyEntry) :
    Except String ReportDependencyManifest := do
  let unique ← entries.foldlM addUnique []
  let ordered := sortedBy ReportDependencyEntry.key unique
  let hash ← sha256Canonical
    (.arr (ordered.map ReportDependencyEntry.semanticProjection))
  return ⟨ordered, hash⟩

/-- `ReportDependencyManifestBuilder.build`. -/
def buildManifest (snapshotId : Uuid) (selections : List FindingSelection)
    (wordings : WordingByFinding) (versions : ReportVersions) :
    Except String ReportDependencyManifest := do
  let consumed ← selectionDependencies snapshotId wordings [] selections
  let config ← versions.configEntries.mapM configDependency
  manifestOf (consumed ++ config)

variable {entries : List ReportDependencyEntry}
  {item : String × String × String} {entry : ReportDependencyEntry}
  {snapshotId oldId : Uuid} {selections : List FindingSelection}
  {wordings : WordingByFinding}

/-! ## What a manifest holds -/

/-- Entries with distinct keys are all collected. -/
theorem foldlM_addUnique_of_nodup {unique : List ReportDependencyEntry}
    (distinct : ((unique ++ entries).map ReportDependencyEntry.key).Nodup) :
    entries.foldlM addUnique unique = .ok (unique ++ entries) := by
  induction entries generalizing unique with
  | nil => rw [List.append_nil]; rfl
  | cons entry entries ih =>
      have absent : ∀ prior ∈ unique, prior.key ≠ entry.key := by
        rw [List.map_append, List.nodup_append] at distinct
        exact fun prior present => distinct.2.2 prior.key
          (List.mem_map_of_mem present) entry.key (by simp)
      have added : addUnique unique entry = .ok (unique ++ [entry]) :=
        orRaise_eq_ok.mpr (Keyed.insertUnique_of_absent absent)
      rw [List.append_cons] at distinct ⊢
      exact bind_eq_ok.mpr ⟨_, added, ih distinct⟩

/-! ## Manifests that can be built -/

theorem textual_entries (entries : List ReportDependencyEntry) :
    Textual (.arr (entries.map ReportDependencyEntry.semanticProjection)) := by
  simp [ReportDependencyEntry.semanticProjection, textual_obj, IsTagged]

theorem exists_manifestOf (distinct : (entries.map ReportDependencyEntry.key).Nodup) :
    ∃ manifest, manifestOf entries = .ok manifest := by
  obtain ⟨hash, hashed, _⟩ := (textual_entries
    (sortedBy ReportDependencyEntry.key entries)).exists_sha256Canonical
  exact ⟨_, bind_eq_ok.mpr ⟨entries, foldlM_addUnique_of_nodup distinct,
    bind_eq_ok.mpr ⟨hash, hashed, rfl⟩⟩⟩

theorem exists_wordingHash (wording : ResolvedWording) :
    ∃ hash, wordingHash wording = .ok hash := by
  have textual : Textual (.obj [("text", .str wording.text),
      ("version", .str wording.version)]) := by
    simp [textual_obj, IsTagged]
  obtain ⟨hash, hashed, _⟩ := textual.exists_sha256Canonical
  exact ⟨hash, hashed⟩

/-- The key of the entry of a configuration item. -/
def configKey (item : String × String × String) : String ×ₗ String :=
  toLex (item.1, item.2.1)

theorem key_configDependency (listed : configDependency item = .ok entry) :
    configKey item = entry.key := by
  simp only [configDependency, require_bind_eq_ok] at listed
  obtain ⟨hash, _, rest⟩ := bind_eq_ok.mp listed.2
  rw [pure_eq_ok] at rest
  rw [← rest]
  rfl

theorem exists_configDependency (versioned : Text.isBlank item.2.2 = false) :
    ∃ entry, configDependency item = .ok entry := by
  obtain ⟨dependencyType, dependencyId, version⟩ := item
  have textual : Textual (.obj [("id", .str dependencyId),
      ("version", .str version)]) := by
    simp [textual_obj, IsTagged]
  obtain ⟨hash, hashed, _⟩ := textual.exists_sha256Canonical
  exact ⟨_, require_bind_eq_ok.mpr ⟨versioned, bind_eq_ok.mpr ⟨hash, hashed, rfl⟩⟩⟩

theorem exists_buildManifest {versions : ReportVersions} {consumed : List ReportDependencyEntry}
    (listed : selectionDependencies snapshotId wordings [] selections = .ok consumed)
    (versioned : ∀ item ∈ versions.configEntries, Text.isBlank item.2.2 = false)
    (distinct : (consumed.map ReportDependencyEntry.key ++
      versions.configEntries.map configKey).Nodup) :
    ∃ manifest, buildManifest snapshotId selections wordings versions = .ok manifest := by
  obtain ⟨config, configured⟩ := exists_mapM_ok fun item present =>
    exists_configDependency (versioned item present)
  rw [map_eq_of_mapM configured fun _ _ => key_configDependency, ← List.map_append] at distinct
  obtain ⟨manifest, built⟩ := exists_manifestOf distinct
  exact ⟨manifest, bind_eq_ok.mpr ⟨consumed, listed, bind_eq_ok.mpr ⟨config, configured, built⟩⟩⟩

/-- Every selection that is listed has a wording. -/
theorem lookup_of_selectionDependencies {seen : List String}
    (listed : selectionDependencies snapshotId wordings seen selections = .ok entries) :
    ∀ selection ∈ selections, ∃ wording, wordings.lookup selection.findingId = some wording := by
  induction selections generalizing seen entries with
  | nil => simp
  | cons selection selections ih =>
      simp only [selectionDependencies, require_bind_eq_ok] at listed
      obtain ⟨wording, found, listed⟩ := bind_eq_ok.mp listed.2
      obtain ⟨first, _, listed⟩ := bind_eq_ok.mp listed
      obtain ⟨others, othersListed, _⟩ := bind_eq_ok.mp listed
      rw [List.forall_mem_cons]
      exact ⟨⟨wording, orRaise_eq_ok.mp found⟩, ih othersListed⟩

/-! ## Where the entries come from -/

/-- An entry as it would be for another snapshot. -/
def ReportDependencyEntry.relocate (snapshotId : Uuid) (entry : ReportDependencyEntry) :
    ReportDependencyEntry :=
  { entry with
    sourceSnapshotId := entry.sourceSnapshotId.map fun _ => snapshotId }

@[simp] theorem key_relocate (snapshotId : Uuid) (entry : ReportDependencyEntry) :
    (entry.relocate snapshotId).key = entry.key := rfl

/-- An entry comes from a snapshot or from the configuration. -/
def ReportDependencyEntry.FromSnapshot
    (snapshotId : Uuid) (entry : ReportDependencyEntry) : Prop :=
  entry.sourceSnapshotId = none ∨ entry.sourceSnapshotId = some snapshotId

theorem relocate_injective {newId : Uuid} {left right : ReportDependencyEntry}
    (leftFrom : left.FromSnapshot oldId) (rightFrom : right.FromSnapshot oldId)
    (equal : left.relocate newId = right.relocate newId) :
    left = right := by
  obtain ⟨_, _, _, _, leftSource⟩ := left
  obtain ⟨_, _, _, _, rightSource⟩ := right
  simp only [ReportDependencyEntry.relocate, ReportDependencyEntry.mk.injEq] at equal ⊢
  refine ⟨equal.1, equal.2.1, equal.2.2.1, equal.2.2.2.1, ?_⟩
  have sources := equal.2.2.2.2
  rcases leftFrom with rfl | rfl <;> rcases rightFrom with rfl | rfl
  · rfl
  · cases sources
  · cases sources
  · rfl

/-- Collecting unique entries commutes with moving them to another
snapshot. -/
theorem foldlM_addUnique_relocate (newId : Uuid) {unique : List ReportDependencyEntry}
    (uniqueFrom : ∀ entry ∈ unique, entry.FromSnapshot oldId)
    (entriesFrom : ∀ entry ∈ entries, entry.FromSnapshot oldId) :
    (entries.map (ReportDependencyEntry.relocate newId)).foldlM addUnique
        (unique.map (ReportDependencyEntry.relocate newId)) =
      (entries.foldlM addUnique unique).map (List.map (ReportDependencyEntry.relocate newId)) := by
  induction entries generalizing unique with
  | nil => rfl
  | cons entry entries ih =>
      rw [List.forall_mem_cons] at entriesFrom
      have inserted : Keyed.insertUnique ReportDependencyEntry.key
          (unique.map (ReportDependencyEntry.relocate newId))
          (entry.relocate newId) =
            (Keyed.insertUnique ReportDependencyEntry.key unique entry).map
              (List.map (ReportDependencyEntry.relocate newId)) :=
        Keyed.insertUnique_map (key_relocate newId) fun prior present =>
            relocate_injective (uniqueFrom prior present) entriesFrom.1
      rw [List.map_cons, List.foldlM_cons, List.foldlM_cons, addUnique, addUnique, inserted]
      cases outcome :
          Keyed.insertUnique ReportDependencyEntry.key unique entry with
      | none => rfl
      | some next =>
          refine ih ?_ entriesFrom.2
          intro other present
          rcases Keyed.mem_insertUnique outcome present with old | rfl
          · exact uniqueFrom other old
          · exact entriesFrom.1

/-- A manifest of another snapshot. -/
def ReportDependencyManifest.relocate
    (snapshotId : Uuid) (manifest : ReportDependencyManifest) :
    ReportDependencyManifest where
  entries := manifest.entries.map (ReportDependencyEntry.relocate snapshotId)
  manifestHash := manifest.manifestHash

/-- A manifest does not depend on the snapshot of its entries. -/
theorem manifestOf_relocate (newId : Uuid)
    (entriesFrom : ∀ entry ∈ entries, entry.FromSnapshot oldId) :
    manifestOf (entries.map (ReportDependencyEntry.relocate newId)) =
      (manifestOf entries).map (ReportDependencyManifest.relocate newId) := by
  have collected := foldlM_addUnique_relocate newId (List.forall_mem_nil _) entriesFrom
  rw [List.map_nil] at collected
  rw [manifestOf, manifestOf, collected]
  cases entries.foldlM addUnique [] with
  | error message => rfl
  | ok unique =>
      have sorted : sortedBy ReportDependencyEntry.key
          (unique.map (ReportDependencyEntry.relocate newId)) =
            (sortedBy ReportDependencyEntry.key unique).map
              (ReportDependencyEntry.relocate newId) :=
        (map_sortedBy _ ReportDependencyEntry.key unique).symm
      have projected : ((sortedBy ReportDependencyEntry.key unique).map
          (ReportDependencyEntry.relocate newId)).map ReportDependencyEntry.semanticProjection =
          (sortedBy ReportDependencyEntry.key unique).map
            ReportDependencyEntry.semanticProjection := by
        rw [List.map_map]
        rfl
      simp only [Except.map, bind, Except.bind, sorted, projected]
      cases sha256Canonical (.arr ((sortedBy ReportDependencyEntry.key
        unique).map ReportDependencyEntry.semanticProjection)) <;> rfl

/-! ## Entries of another snapshot -/

theorem fromSnapshot_of_findingDependencies
    {finding : SnapshotFindingRecord} {wording : ResolvedWording}
    (listed : findingDependencies snapshotId finding wording = .ok entries) :
    ∀ entry ∈ entries, entry.FromSnapshot snapshotId := by
  obtain ⟨hash, _, rest⟩ := bind_eq_ok.mp listed
  rw [pure_eq_ok] at rest
  subst rest
  simp [ReportDependencyEntry.FromSnapshot]

theorem findingDependencies_relocate
    (oldId newId : Uuid) (finding : SnapshotFindingRecord) (wording : ResolvedWording) :
    findingDependencies newId finding wording =
      (findingDependencies oldId finding wording).map
        (List.map (ReportDependencyEntry.relocate newId)) := by
  unfold findingDependencies
  cases wordingHash wording <;> rfl

theorem selectionDependencies_relocate
    (oldId newId : Uuid) (wordings : WordingByFinding) (seen : List String)
    (selections : List FindingSelection) :
    selectionDependencies newId wordings seen selections =
      (selectionDependencies oldId wordings seen selections).map
        (List.map (ReportDependencyEntry.relocate newId)) := by
  induction selections generalizing seen with
  | nil => rfl
  | cons selection selections ih =>
      simp only [selectionDependencies, ih, findingDependencies_relocate oldId newId]
      cases require (selection.findingId ∉ seen)
        ("duplicate consumed finding: " ++ selection.findingId) with
      | error message => rfl
      | ok _ =>
          cases orRaise (wordings.lookup selection.findingId)
            ("missing resolved wording dependency for finding " ++ selection.findingId) with
          | error message => rfl
          | ok wording =>
              simp only [bind, Except.bind, Except.map, pure, Except.pure]
              cases findingDependencies oldId selection.finding wording with
              | error message => rfl
              | ok entries =>
                  cases selectionDependencies oldId wordings
                    (selection.findingId :: seen) selections with
                  | error message => rfl
                  | ok others => simp

theorem fromSnapshot_of_selectionDependencies {seen : List String}
    (listed : selectionDependencies snapshotId wordings seen selections = .ok entries) :
    ∀ entry ∈ entries, entry.FromSnapshot snapshotId := by
  induction selections generalizing seen entries with
  | nil =>
      cases listed
      simp
  | cons selection selections ih =>
      simp only [selectionDependencies, require_bind_eq_ok] at listed
      obtain ⟨_, listed⟩ := listed
      obtain ⟨wording, _, listed⟩ := bind_eq_ok.mp listed
      obtain ⟨first, firstListed, listed⟩ := bind_eq_ok.mp listed
      obtain ⟨others, othersListed, rest⟩ := bind_eq_ok.mp listed
      rw [pure_eq_ok] at rest
      subst rest
      rw [List.forall_mem_append]
      exact ⟨fromSnapshot_of_findingDependencies firstListed, ih othersListed⟩

theorem sourceSnapshotId_of_configDependency (listed : configDependency item = .ok entry) :
    entry.sourceSnapshotId = none := by
  simp only [configDependency, require_bind_eq_ok] at listed
  obtain ⟨hash, _, rest⟩ := bind_eq_ok.mp listed.2
  rw [pure_eq_ok] at rest
  rw [← rest]

theorem relocate_of_config (snapshotId : Uuid) (config : entry.sourceSnapshotId = none) :
    entry.relocate snapshotId = entry := by
  obtain ⟨_, _, _, _, source⟩ := entry
  cases config
  rfl

/-- The manifest of a report does not depend on the snapshot it is built
from. -/
theorem buildManifest_relocate (oldId newId : Uuid) (selections : List FindingSelection)
    (wordings : WordingByFinding) (versions : ReportVersions) :
    buildManifest newId selections wordings versions =
      (buildManifest oldId selections wordings versions).map
        (ReportDependencyManifest.relocate newId) := by
  rw [buildManifest, buildManifest, selectionDependencies_relocate oldId newId]
  cases listed : selectionDependencies oldId wordings [] selections with
  | error message => rfl
  | ok consumed =>
      cases configured : versions.configEntries.mapM configDependency with
      | error message => rfl
      | ok config =>
          have sources : ∀ entry ∈ config, entry.sourceSnapshotId = none :=
            forall_mem_of_mapM configured fun _ _ _ =>
              sourceSnapshotId_of_configDependency
          have kept : config.map (ReportDependencyEntry.relocate newId) =
              config :=
            (List.map_congr_left fun entry present =>
              relocate_of_config newId (sources entry present)).trans (List.map_id config)
          have origins : ∀ entry ∈ consumed ++ config,
              entry.FromSnapshot oldId := by
            rw [List.forall_mem_append]
            exact ⟨fromSnapshot_of_selectionDependencies listed,
              fun entry present => .inl (sources entry present)⟩
          change manifestOf (consumed.map (ReportDependencyEntry.relocate newId) ++ config) =
              (manifestOf (consumed ++ config)).map _
          rw [← manifestOf_relocate newId origins, List.map_append, kept]

end SanTanHeights.Report
