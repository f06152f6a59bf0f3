import SanTanHeights.Report.Payload

/-!
# Building a report

The steps from the findings of a snapshot to the payload of a report and its
input hash, in the order in which the report builder's components are
composed.  `ReportInputHashEngine.calculate` hashes the semantic inputs: the
selected findings with their wording, the dependency manifest and the
versions of the governed configuration.
-/

namespace SanTanHeights.Report

open Foundation Foundation.Json Foundation.Sorting Foundation.Outcome Shared
open Snapshot

/-! ## The source -/

/-- An item of `finding_inputs`. -/
structure FindingInput where
  findingId : String
  findingType : String
  sectionId : String
  semanticFingerprint : String
  wordingText : String
  wordingVersion : String
  deriving DecidableEq, Repr

namespace FindingInput

def json (input : FindingInput) : Json :=
  .obj [("finding_id", .str input.findingId), ("finding_type", .str input.findingType),
      ("section_id", .str input.sectionId),
      ("semantic_fingerprint", .str input.semanticFingerprint),
      ("wording_text", .str input.wordingText),
      ("wording_version", .str input.wordingVersion)]

/-- The order of `finding_inputs`. -/
def sortKey (input : FindingInput) : String ×ₗ String ×ₗ String :=
  toLex (input.sectionId, toLex (input.findingType, input.findingId))

end FindingInput

/-- The body of the loop of `calculate`. -/
def findingInput (wordings : WordingByFinding)
    (selection : FindingSelection) : Except String FindingInput := do
  let wording ← orRaise (wordings.lookup selection.findingId)
    ("missing wording for finding: " ++ selection.findingId)
  return {
    findingId := selection.findingId
    findingType := selection.findingType
    sectionId := selection.sectionId
    semanticFingerprint := selection.semanticFingerprint
    wordingText := wording.text
    wordingVersion := wording.version }

/-- `projection`. -/
def inputProjection (propertyId : Uuid) (variant : Variant) (inputs : List FindingInput)
    (manifest : ReportDependencyManifest) (versions : ReportVersions) :
    Json :=
  .obj [("property_id", .str propertyId.str), ("report_variant", .str variant.code),
      ("findings", .arr ((sortedBy FindingInput.sortKey inputs).map FindingInput.json)),
      ("dependency_manifest", manifest.semanticProjection),
      ("report_schema_version", .str versions.reportSchemaVersion),
      ("content_contract_version", .str versions.contentContractVersion),
      ("variant_policy_version", .str versions.variantPolicyVersion),
      ("friendly_label_version", .str versions.friendlyLabelVersion),
      ("glossary_version", .str versions.glossaryVersion)]

/-- `ReportInputHashEngine.calculate(...).report_input_hash`. -/
def calculateInputHash (propertyId : Uuid) (variant : Variant)
    (selections : List FindingSelection) (wordings : WordingByFinding)
    (manifest : ReportDependencyManifest) (versions : ReportVersions) :
    Except String String := do
  let inputs ← selections.mapM (findingInput wordings)
  sha256Canonical (inputProjection propertyId variant inputs manifest versions)

/-! ## What the hash covers -/

theorem FindingInput.eq_of_same (left right : FindingInput) (same : Same left.json right.json) :
    left = right := by
  have members := forall₂_of_same_obj same rfl (by simp)
  simp only [List.forall₂_cons, same_str, List.forall₂_nil_left_iff, and_true] at members
  obtain ⟨_, _, _, _, _, _⟩ := left
  obtain ⟨_, _, _, _, _, _⟩ := right
  simpa using members

/-- What a manifest entry contributes to a hash. -/
structure DependencyInput where
  dependencyType : String
  dependencyId : String
  semanticFingerprint : String
  dependencyVersion : String
  deriving DecidableEq, Repr

def dependencyInput (entry : ReportDependencyEntry) : DependencyInput where
  dependencyType := entry.dependencyType
  dependencyId := entry.dependencyId
  semanticFingerprint := entry.semanticFingerprint
  dependencyVersion := entry.dependencyVersion

theorem dependencyInput_eq_of_same {left right : ReportDependencyEntry}
    (same : Same left.semanticProjection right.semanticProjection) :
    dependencyInput left = dependencyInput right := by
  have members := forall₂_of_same_obj same rfl (by simp)
  simp only [List.forall₂_cons, same_str, List.forall₂_nil_left_iff, and_true] at members
  simpa [dependencyInput] using members

theorem textual_semanticProjection (manifest : ReportDependencyManifest) :
    Textual manifest.semanticProjection := by
  simp [ReportDependencyManifest.semanticProjection,
    ReportDependencyEntry.semanticProjection, textual_obj, IsTagged]

theorem textual_inputProjection
    (propertyId : Uuid) (variant : Variant) (inputs : List FindingInput)
    (manifest : ReportDependencyManifest) (versions : ReportVersions) :
    Textual (inputProjection propertyId variant inputs manifest versions) := by
  simp [inputProjection, FindingInput.json, textual_obj, IsTagged, textual_semanticProjection]

/-- A report whose findings have wordings has a hash. -/
theorem exists_calculateInputHash (propertyId : Uuid) (variant : Variant)
    {selections : List FindingSelection} {wordings : WordingByFinding}
    (manifest : ReportDependencyManifest) (versions : ReportVersions)
    (worded : ∀ selection ∈ selections, ∃ wording,
      wordings.lookup selection.findingId = some wording) :
    ∃ hash, calculateInputHash propertyId variant selections wordings
        manifest versions = .ok hash ∧ Sha256.isHex64 hash = true := by
  have inputs : ∃ inputs, selections.mapM (findingInput wordings) =
      .ok inputs := by
    apply exists_mapM_ok
    intro selection present
    obtain ⟨wording, found⟩ := worded selection present
    rw [findingInput, found]
    exact ⟨_, rfl⟩
  obtain ⟨inputs, read⟩ := inputs
  obtain ⟨hash, hashed, hex⟩ := (textual_inputProjection propertyId variant
    inputs manifest versions).exists_sha256Canonical
  exact ⟨hash, bind_eq_ok.mpr ⟨inputs, read, hashed⟩, hex⟩

/-- Two reports agree in everything that their input hash covers. -/
structure SameInputs (leftProperty rightProperty : Uuid) (leftVariant rightVariant : Variant)
    (leftInputs rightInputs : List FindingInput)
    (leftManifest rightManifest : ReportDependencyManifest)
    (leftVersions rightVersions : ReportVersions) : Prop where
  propertyId : leftProperty = rightProperty
  variant : leftVariant = rightVariant
  findings : sortedBy FindingInput.sortKey leftInputs = sortedBy FindingInput.sortKey rightInputs
  dependencies : leftManifest.entries.map dependencyInput =
    rightManifest.entries.map dependencyInput
  reportSchemaVersion : leftVersions.reportSchemaVersion = rightVersions.reportSchemaVersion
  contentContractVersion :
    leftVersions.contentContractVersion = rightVersions.contentContractVersion
  variantPolicyVersion : leftVersions.variantPolicyVersion = rightVersions.variantPolicyVersion
  friendlyLabelVersion : leftVersions.friendlyLabelVersion = rightVersions.friendlyLabelVersion
  glossaryVersion : leftVersions.glossaryVersion = rightVersions.glossaryVersion

theorem sameInputs_of_same
    {leftProperty rightProperty : Uuid} {leftVariant rightVariant : Variant}
    {leftInputs rightInputs : List FindingInput}
    {leftManifest rightManifest : ReportDependencyManifest}
    {leftVersions rightVersions : ReportVersions}
    (same : Same (inputProjection leftProperty leftVariant leftInputs leftManifest leftVersions)
      (inputProjection rightProperty rightVariant rightInputs rightManifest rightVersions)) :
    SameInputs leftProperty rightProperty leftVariant rightVariant leftInputs
      rightInputs leftManifest rightManifest leftVersions rightVersions := by
  unfold inputProjection at same
  have members := forall₂_of_same_obj same (by simp) (by simp)
  simp only [List.forall₂_cons, same_str] at members
  obtain ⟨property, variant, findings, manifest, schema, contract, policy,
    labels, glossary, _⟩ := members
  have entries : leftManifest.entries.map dependencyInput =
      rightManifest.entries.map dependencyInput := by
    simp only [ReportDependencyManifest.semanticProjection, same_arr,
      List.forall₂_map_left_iff, List.forall₂_map_right_iff] at manifest
    rw [← List.forall₂_eq_eq_eq, List.forall₂_map_left_iff, List.forall₂_map_right_iff]
    exact manifest.imp fun _ _ => dependencyInput_eq_of_same
  exact
    { propertyId := Uuid.str_injective property
      variant := Variant.code_injective variant
      findings := eq_of_same_arr FindingInput.eq_of_same findings
      dependencies := entries
      reportSchemaVersion := schema
      contentContractVersion := contract
      variantPolicyVersion := policy
      friendlyLabelVersion := labels
      glossaryVersion := glossary }

/-! ## The steps -/

/-- The registries a report is built under. -/
structure ReportConfig where
  variants : VariantPolicyRegistry
  sections : ReportSectionRegistry
  labels : FriendlyLabelRegistry
  glossary : GlossaryResolver
  schema : CanonicalReportSchema

namespace ReportConfig

/-- The registries with the shipped variant policies. -/
def shipped (config : ReportConfig) : ReportConfig :=
  { config with variants := variantPolicies }

def selector (config : ReportConfig) : FindingSelector where
  variants := config.variants
  sections := config.sections

def payloadBuilder (config : ReportConfig) : CanonicalPayloadBuilder where
  sections := config.sections
  labels := config.labels
  schema := config.schema

/-- The versions that a report with these inputs names. -/
def versions (config : ReportConfig) (inputs : CanonicalPayloadInputs) : ReportVersions where
  reportSchemaVersion := inputs.reportSchemaVersion
  contentContractVersion := inputs.contentContractVersion
  variantPolicyId := (config.variants inputs.reportVariant).policyId
  variantPolicyVersion := inputs.variantPolicyVersion
  sectionRegistryId := config.sections.registryId
  sectionRegistryVersion := config.sections.version
  friendlyLabelRegistryId := config.labels.registryId
  friendlyLabelVersion := config.labels.version
  glossaryRegistryId := config.glossary.registryId
  glossaryVersion := config.glossary.version

end ReportConfig

/-- What a report depends on, and its identity. -/
structure ReportIdentity where
  manifest : ReportDependencyManifest
  inputHash : String

/-- The manifest and the input hash of a report. -/
def identify (propertyId snapshotId : Uuid) (variant : Variant)
    (versions : ReportVersions) (selections : List FindingSelection)
    (wordings : WordingByFinding) : Except String ReportIdentity := do
  let manifest ← buildManifest snapshotId selections wordings versions
  let hash ← calculateInputHash propertyId variant selections wordings
    manifest versions
  return ⟨manifest, hash⟩

structure ReportBuild where
  identity : ReportIdentity
  payload : List (String × Json)

/-- The report of selected findings with their wording. -/
def buildReport (config : ReportConfig) (inputs : CanonicalPayloadInputs)
    (selections : List FindingSelection) (wordings : WordingByFinding) :
    Except String ReportBuild := do
  let identity ← identify inputs.propertyId inputs.snapshotId
    inputs.reportVariant (config.versions inputs) selections wordings
  let glossary := config.glossary.resolve
    (selections.map FindingSelection.findingType) inputs.reportVariant
  let payload ← config.payloadBuilder.build inputs selections wordings
    glossary identity.manifest
  return ⟨identity, payload⟩

/-- The identity of the report of a list of findings. -/
def identifyFindings (config : ReportConfig) (propertyId snapshotId : Uuid)
    (variant : Variant) (versions : ReportVersions) (findings : List SnapshotFindingRecord) :
    Except String ReportIdentity := do
  let selections ← config.selector.select findings variant
  let wordings ← resolveAll selections variant
  identify propertyId snapshotId variant versions selections wordings

/-- The report of a list of findings. -/
def reportOn (config : ReportConfig) (inputs : CanonicalPayloadInputs)
    (findings : List SnapshotFindingRecord) :
    Except String ReportBuild := do
  let selections ← config.selector.select findings inputs.reportVariant
  let wordings ← resolveAll selections inputs.reportVariant
  buildReport config inputs selections wordings

/-- A report whose consumed entries have distinct keys can be identified. -/
theorem exists_identify (propertyId : Uuid) {snapshotId : Uuid} (variant : Variant)
    {versions : ReportVersions} {selections : List FindingSelection}
    {wordings : WordingByFinding} {consumed : List ReportDependencyEntry}
    (listed : selectionDependencies snapshotId wordings [] selections = .ok consumed)
    (versioned : ∀ item ∈ versions.configEntries, Text.isBlank item.2.2 = false)
    (distinct : (consumed.map ReportDependencyEntry.key ++
      versions.configEntries.map configKey).Nodup) :
    ∃ identity,
      identify propertyId snapshotId variant versions selections wordings = .ok identity ∧
      Sha256.isHex64 identity.inputHash = true := by
  obtain ⟨manifest, built⟩ := exists_buildManifest listed versioned distinct
  obtain ⟨hash, hashed, hex⟩ := exists_calculateInputHash propertyId variant
    manifest versions (lookup_of_selectionDependencies listed)
  exact ⟨⟨manifest, hash⟩, bind_eq_ok.mpr ⟨manifest, built, bind_eq_ok.mpr
    ⟨hash, hashed, rfl⟩⟩, hex⟩

/-! ## Samples -/

/-- The shipped policies and sections with one label and one glossary term. -/
def sampleConfig : ReportConfig where
  variants := variantPolicies
  sections := reportSections
  labels :=
    { registryId := "STH-FRIENDLY-LABELS-v1.0"
      version := "1.0.0"
      labels := fun term =>
        if term = "POOL_STATUS" then
          some fun variant =>
            match variant with
            | .agent => "Pool Status"
            | _ => "Pool"
        else none }
  glossary :=
    { registryId := "STH-CONSUMER-GLOSSARY-v1.0"
      version := "1.0.0"
      universal := ["VERIFIED"]
      terms :=
        [{ termId := "VERIFIED"
           relatedFindingTypes := []
           view := fun _ => ⟨"Verified", "Checked for this report."⟩ }]
      distinct := by decide
      known := by decide }
  schema := { firstError := fun _ => none }

/-- Versions of the governed configuration. -/
def sampleVersions : ReportVersions where
  reportSchemaVersion := "1.0.0"
  contentContractVersion := "1.0.0"
  variantPolicyId := "STH-REPORT-VARIANT-AGENT-v1.0"
  variantPolicyVersion := "1.0.0"
  sectionRegistryId := "STH-REPORT-SECTIONS-v1.0"
  sectionRegistryVersion := "1.0.0"
  friendlyLabelRegistryId := "STH-FRIENDLY-LABELS-v1.0"
  friendlyLabelVersion := "1.0.0"
  glossaryRegistryId := "STH-CONSUMER-GLOSSARY-v1.0"
  glossaryVersion := "1.0.0"

/-- A ready finding with the same wording for every variant. -/
def sampleFinding (findingId findingType : String) (scope : PublicationScope) :
    SnapshotFindingRecord where
  snapshotId := 1
  finding :=
    { findingId := findingId
      findingType := findingType
      passportId := "P1"
      passportVersion := "1"
      canonicalValue := .null
      confidenceCode := "HIGH"
      qaStatus := .pass
      productionStatus := .productionReady
      publicationScope := scope
      agentWording := some "Pool"
      sellerWording := some "Pool"
      publicWording := some "Pool"
      agentWordingVersion := some "1"
      sellerWordingVersion := some "1"
      publicWordingVersion := some "1"
      semanticFingerprint := String.ofList (List.replicate 64 '0')
      evidenceReferenceSetHash := String.ofList (List.replicate 64 '0') }
  passportSemanticFingerprint := String.ofList (List.replicate 64 '0')

end SanTanHeights.Report
