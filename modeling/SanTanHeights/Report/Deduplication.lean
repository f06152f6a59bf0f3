import SanTanHeights.Foundation.Merging
import SanTanHeights.Report.CrossReferences
import SanTanHeights.Report.Diff
import SanTanHeights.Report.Pipeline

/-!
# Deduplicated reports

A build whose input hash is stored already reuses the stored report and drops
its own payload.  The input hash covers the selected findings and the versions
of the configuration, the payload holds more.
-/

namespace SanTanHeights.Report

open Foundation Foundation.Json Foundation.Sorting Foundation.Outcome Shared

/-! ## Payloads from input findings -/

/-- The label of a finding type, where there is one. -/
def labelOf (labels : FriendlyLabelRegistry) (variant : Variant)
    (findingType : String) : String :=
  (labels.labels findingType).elim "" fun label => label variant

/-- The payload finding of a hashed one. -/
def FindingInput.payload (labels : FriendlyLabelRegistry) (variant : Variant)
    (sourceSnapshotId : String) (input : FindingInput) : PayloadFinding where
  findingId := input.findingId
  findingType := input.findingType
  label := labelOf labels variant input.findingType
  displayText := input.wordingText
  sectionId := input.sectionId
  sourceSnapshotId := sourceSnapshotId
  semanticFingerprint := input.semanticFingerprint

section Findings

variable {labels : FriendlyLabelRegistry} {inputs : CanonicalPayloadInputs}
  {wordings : WordingByFinding} {selections : List FindingSelection}

theorem payloadFinding_eq {selection : FindingSelection} {finding : PayloadFinding}
    {input : FindingInput}
    (filled : payloadFinding labels inputs wordings selection = .ok finding)
    (hashed : findingInput wordings selection = .ok input) :
    finding = input.payload labels inputs.reportVariant inputs.snapshotId.str := by
  obtain ⟨wording, found, filled⟩ := bind_eq_ok.mp filled
  obtain ⟨label, resolved, filled⟩ := bind_eq_ok.mp filled
  obtain ⟨other, otherFound, hashed⟩ := bind_eq_ok.mp hashed
  obtain ⟨view, listed, resolved⟩ := bind_eq_ok.mp resolved
  rw [orRaise_eq_ok] at found otherFound listed
  rw [found, Option.some.injEq] at otherFound
  subst otherFound
  rw [← pure_eq_ok.mp filled, ← pure_eq_ok.mp hashed, ← pure_eq_ok.mp resolved]
  simp [FindingInput.payload, labelOf, listed]

/-- The findings of a payload are those that the input hash covers. -/
theorem payloadFindings_eq {findings : List PayloadFinding} {hashedInputs : List FindingInput}
    (filled : selections.mapM (payloadFinding labels inputs wordings) = .ok findings)
    (hashed : selections.mapM (findingInput wordings) = .ok hashedInputs) :
    findings = hashedInputs.map (FindingInput.payload labels
      inputs.reportVariant inputs.snapshotId.str) := by
  have related := mapM_eq_ok.mp filled
  have others := mapM_eq_ok.mp hashed
  clear filled hashed
  induction related generalizing hashedInputs with
  | nil =>
      cases others
      rfl
  | cons head _ ih =>
      cases others with
      | cons otherHead rest =>
          rw [List.map_cons, ih rest, payloadFinding_eq head otherHead]

theorem nodup_of_selectionDependencies {snapshotId : Uuid} {seen : List String}
    {entries : List ReportDependencyEntry}
    (listed : selectionDependencies snapshotId wordings seen selections = .ok entries) :
    (selections.map FindingSelection.findingId).Nodup ∧
      ∀ selection ∈ selections, selection.findingId ∉ seen := by
  induction selections generalizing seen entries with
  | nil => simp
  | cons selection selections ih =>
      simp only [selectionDependencies, require_bind_eq_ok] at listed
      obtain ⟨fresh, listed⟩ := listed
      obtain ⟨wording, _, listed⟩ := bind_eq_ok.mp listed
      obtain ⟨first, _, listed⟩ := bind_eq_ok.mp listed
      obtain ⟨others, othersListed, _⟩ := bind_eq_ok.mp listed
      obtain ⟨distinct, unseen⟩ := ih othersListed
      rw [List.map_cons, List.nodup_cons, List.forall_mem_cons]
      refine ⟨⟨?_, distinct⟩, fresh, ?_⟩
      · intro again
        obtain ⟨other, present, same⟩ := List.mem_map.mp again
        exact unseen other present (same ▸ List.mem_cons_self)
      · exact fun other present old =>
          unseen other present (List.mem_cons_of_mem _ old)

end Findings

/-! ## Cards -/

namespace PayloadFinding

/-- A finding that names no snapshot. -/
def anonymous (finding : PayloadFinding) : PayloadFinding :=
  { finding with sourceSnapshotId := "" }

/-- What a diff compares of a finding. -/
def projected (finding : PayloadFinding) : Json :=
  .obj [("finding_id", .str finding.findingId), ("finding_type", .str finding.findingType),
      ("label", .str finding.label), ("display_text", .str finding.displayText),
      ("section_id", .str finding.sectionId), ("status_label", .null),
      ("confidence_label", .null), ("limitation", .null),
      ("semantic_fingerprint", .str finding.semanticFingerprint)]

end PayloadFinding

/-- The cards of the findings of a section. -/
def factCards (findings : List PayloadFinding) (sectionId : String) : List Card :=
  (sectionFindingIds findings sectionId).filterMap (findingCard findings sectionId)

theorem factCards_anonymous (findings : List PayloadFinding) (sectionId : String) :
    factCards (findings.map PayloadFinding.anonymous) sectionId = factCards findings sectionId := by
  have ids : sectionFindingIds (findings.map PayloadFinding.anonymous)
      sectionId = sectionFindingIds findings sectionId := by
    rw [sectionFindingIds, sectionFindingIds, List.filter_map, List.map_map]
    rfl
  have cards : findingCard (findings.map PayloadFinding.anonymous)
      sectionId = findingCard findings sectionId := by
    funext findingId
    rw [findingCard, findingCard, List.find?_map, Option.map_map]
    rfl
  rw [factCards, factCards, ids, cards]

theorem factCards_of_perm {findings others : List PayloadFinding}
    (permuted : findings.Perm others)
    (distinct : (findings.map PayloadFinding.findingId).Nodup) (sectionId : String) :
    factCards findings sectionId = factCards others sectionId := by
  have ids : sectionFindingIds findings sectionId =
      sectionFindingIds others sectionId :=
    sortedBy_eq_of_perm ((permuted.filter _).map _) fun _ _ _ _ same => same
  have otherDistinct : (others.map PayloadFinding.findingId).Nodup :=
    (permuted.map PayloadFinding.findingId).nodup_iff.mp distinct
  have found := (@Merging.same_get_iff_perm _ _ _ _ _
    PayloadFinding.findingId findings others id id distinct otherDistinct
    (fun left right => ⟨fun same => ⟨congrArg _ same, same⟩,
      And.right⟩)).mpr (by simpa using permuted)
  have cards : findingCard findings sectionId =
      findingCard others sectionId := by
    funext findingId
    have same := found findingId
    rw [Option.map_id, id, id] at same
    exact congrArg (Option.map _) same
  rw [factCards, factCards, ids, cards]

/-! ## Sections -/

/-- The section and the cards of an entry of the registry. -/
def sectionOf (inputs : CanonicalPayloadInputs) (findings : List PayloadFinding)
    (entry : ReportSection) : PayloadSection × List Card :=
  let cards := sectionCards inputs findings entry
  ({ sectionId := entry.sectionId
     title := (inputs.sectionTitles entry.sectionId).getD ""
     order := entry.order
     cardIds := cards.map Card.cardId }, cards)

section Sections

variable {inputs : CanonicalPayloadInputs} {findings : List PayloadFinding}

theorem payloadSection_eq_ok {entry : ReportSection} {part : PayloadSection × List Card}
    (filled : payloadSection inputs findings entry = .ok part) :
    part = sectionOf inputs findings entry ∧ (inputs.sectionTitles entry.sectionId).isSome := by
  obtain ⟨title, approved, filled⟩ := bind_eq_ok.mp filled
  rw [orRaise_eq_ok, Option.filter_eq_some_iff] at approved
  rw [← pure_eq_ok.mp filled, sectionOf, approved.1]
  exact ⟨rfl, rfl⟩

theorem parts_eq {entries : List ReportSection} {parts : List (PayloadSection × List Card)}
    (filled : entries.mapM (payloadSection inputs findings) = .ok parts) :
    parts = entries.map (sectionOf inputs findings) ∧
      ∀ entry ∈ entries, (inputs.sectionTitles entry.sectionId).isSome := by
  constructor
  · have same := map_eq_of_mapM filled fun _ _ filled =>
      (payloadSection_eq_ok filled).1.symm
    rw [same, List.map_id']
  · intro entry listed
    obtain ⟨_, _, filled⟩ := exists_ok_of_mapM filled listed
    exact (payloadSection_eq_ok filled).2

end Sections

/-- The identifiers of the cards of a section do not depend on its inputs. -/
theorem cardIds_congr {inputs others : CanonicalPayloadInputs}
    {findings otherFindings : List PayloadFinding} {entry : ReportSection}
    (facts : factCards findings entry.sectionId = factCards otherFindings entry.sectionId) :
    (sectionCards inputs findings entry).map Card.cardId =
      (sectionCards others otherFindings entry).map Card.cardId := by
  change (factCards findings entry.sectionId ++ _).map _ =
    (factCards otherFindings entry.sectionId ++ _).map _
  rw [facts, List.map_append, List.map_append]
  split_ifs <;> rfl

/-! ## What a diff compares -/

/-- The metadata that a diff compares. -/
def comparedMetadata (inputs : CanonicalPayloadInputs) : List (String × Json) :=
  [("report_schema_version", .str inputs.reportSchemaVersion),
    ("content_contract_version", .str inputs.contentContractVersion),
    ("variant_policy_version", .str inputs.variantPolicyVersion),
    ("report_variant", .str inputs.reportVariant.code),
    ("property_id", .str inputs.propertyId.str)]

/-- What a diff compares of a payload. -/
def comparedObject (inputs : CanonicalPayloadInputs) (findings : List PayloadFinding)
    (sections : List PayloadSection) (cards : List Card)
    (glossary : List GlossaryEntry) : List (String × Json) :=
  [("metadata", .obj (comparedMetadata inputs)),
    ("property_identity", .obj (identityObject inputs)),
    ("summary", .arr (inputs.summaryItems.map Json.str)),
    ("sections", .arr (sections.map PayloadSection.json)),
    ("findings", .arr ((sortedBy PayloadFinding.sortKey findings).map PayloadFinding.projected)),
    ("cards", .arr (cards.map Card.json)), ("media_slots", .arr inputs.mediaSlots),
    ("diagram_slots", .arr inputs.diagramSlots),
    ("glossary", .arr (glossary.map GlossaryEntry.json)),
    ("evidence_disclosures", .arr inputs.evidenceDisclosures),
    ("disclaimers", .arr (inputs.disclaimers.map Json.str)), ("branding_reference", .obj
      [("brand_profile_id", .str inputs.brandProfileId),
        ("brand_version", .str inputs.brandVersion)])]

theorem mapM_projectFinding (findings : List PayloadFinding) :
    (findings.map PayloadFinding.json).mapM projectFinding =
      .ok (findings.map PayloadFinding.projected) := by
  rw [mapM_eq_ok, List.forall₂_map_left_iff, List.forall₂_map_right_iff, List.forall₂_same]
  intro finding _
  rfl

theorem semanticProjection_payloadObject
    (inputs : CanonicalPayloadInputs) (findings : List PayloadFinding)
    (sections : List PayloadSection) (cards : List Card)
    (glossary : List GlossaryEntry) (manifestHash : String) :
    semanticProjection (payloadObject inputs findings sections cards glossary manifestHash) =
      .ok (comparedObject inputs findings sections cards glossary) := by
  have metadata : dropKeys metaIgnored (metadataObject inputs) = comparedMetadata inputs := rfl
  have projected : projectFindings (some (.arr
      ((sortedBy PayloadFinding.sortKey findings).map PayloadFinding.json))) =
      .ok (.arr ((sortedBy PayloadFinding.sortKey findings).map PayloadFinding.projected)) := by
    rw [projectFindings, mapM_projectFinding]
    rfl
  refine bind_eq_ok.mpr ⟨metadataObject inputs, rfl, ?_⟩
  refine bind_eq_ok.mpr ⟨_, projected, ?_⟩
  rw [metadata]
  rfl

theorem pyEq_texts {left right : List String} :
    pyEq (.arr (left.map Json.str)) (.arr (right.map Json.str)) = true ↔ left = right := by
  rw [pyEq_arr, List.forall₂_map_left_iff, List.forall₂_map_right_iff, ← List.forall₂_eq_eq_eq]
  simp only [pyEq_str]

theorem PayloadSection.distinctKeys_json (entry : PayloadSection) :
    entry.json.DistinctKeys := by
  have ids : (Json.arr (entry.cardIds.map Json.str)).DistinctKeys :=
    Textual.distinctKeys (by simp)
  rw [PayloadSection.json, DistinctKeys, all_obj]
  refine ⟨by simp [KeysNodup], ?_⟩
  simp only [List.forall_mem_cons, List.not_mem_nil, IsEmpty.forall_iff, implies_true, and_true]
  exact ⟨trivial, trivial, trivial, ids, trivial⟩

/-- Sections that differ in their title only. -/
theorem PayloadSection.pyEq_json {left right : PayloadSection}
    (sectionId : left.sectionId = right.sectionId) (order : left.order = right.order)
    (cardIds : left.cardIds = right.cardIds) :
    pyEq left.json right.json = true ↔ left.title = right.title := by
  constructor
  · intro equal
    rw [PayloadSection.json, PayloadSection.json, pyEq_obj (by simp) (by simp)] at equal
    simp only [List.forall₂_cons, pyEq_str] at equal
    exact equal.2.1
  · intro title
    have same : left = right := by
      cases left
      cases right
      simp_all
    rw [same]
    exact pyEq_refl right.distinctKeys_json

theorem textual_projected (findings : List PayloadFinding) :
    Textual (.arr (findings.map PayloadFinding.projected)) := by
  simp [PayloadFinding.projected, textual_obj, IsTagged]

theorem textual_cards (cards : List Card) : Textual (.arr (cards.map Card.json)) := by
  simp [Card.json, textual_obj, IsTagged]

theorem textual_glossary (glossary : List GlossaryEntry) :
    Textual (.arr (glossary.map GlossaryEntry.json)) := by
  simp [GlossaryEntry.json, textual_obj, IsTagged]

theorem textual_comparedMetadata (inputs : CanonicalPayloadInputs) :
    Textual (.obj (comparedMetadata inputs)) := by
  simp [comparedMetadata, textual_obj, IsTagged]

/-! ## What the input hash does not cover -/

/-- The governed inputs of two payloads agree where the input hash does not
cover them, as a diff compares them. -/
structure SameUncovered (sections : List ReportSection)
    (left right : CanonicalPayloadInputs) : Prop where
  propertyIdentity : SameData (.obj (identityObject left)) (.obj (identityObject right))
  summaryItems : left.summaryItems = right.summaryItems
  sectionTitles : ∀ entry ∈ sections,
    left.sectionTitles entry.sectionId = right.sectionTitles entry.sectionId
  disclaimers : left.disclaimers = right.disclaimers
  brandProfileId : left.brandProfileId = right.brandProfileId
  brandVersion : left.brandVersion = right.brandVersion
  mediaSlots : pyEq (.arr left.mediaSlots) (.arr right.mediaSlots) = true
  diagramSlots : pyEq (.arr left.diagramSlots) (.arr right.diagramSlots) = true
  evidenceDisclosures : pyEq (.arr left.evidenceDisclosures) (.arr right.evidenceDisclosures) = true

/-- Two payloads agree in what the input hash covers. -/
structure SameCovered (left right : CanonicalPayloadInputs)
    (findings others : List PayloadFinding)
    (glossary otherGlossary : List GlossaryEntry) : Prop where
  metadata : comparedMetadata left = comparedMetadata right
  projected : (sortedBy PayloadFinding.sortKey findings).map
      PayloadFinding.projected =
    (sortedBy PayloadFinding.sortKey others).map PayloadFinding.projected
  facts : ∀ sectionId, factCards findings sectionId = factCards others sectionId
  glossary : glossary = otherGlossary

section Walk

variable {left right : CanonicalPayloadInputs}
  {findings others : List PayloadFinding} {sections : List ReportSection}

theorem sectionOf_congr {entry : ReportSection}
    (facts : factCards findings entry.sectionId = factCards others entry.sectionId)
    (summaryItems : left.summaryItems = right.summaryItems)
    (title : left.sectionTitles entry.sectionId = right.sectionTitles entry.sectionId) :
    sectionOf left findings entry = sectionOf right others entry := by
  have cards : sectionCards left findings entry =
      sectionCards right others entry := by
    change factCards findings entry.sectionId ++ _ = factCards others entry.sectionId ++ _
    rw [facts]
    split_ifs with summary
    · rw [summary] at title
      rw [summaryCard, summaryCard, title, summaryItems]
    · rfl
  rw [sectionOf, sectionOf, cards, title]

theorem pyEq_sections
    (facts : ∀ sectionId, factCards findings sectionId = factCards others sectionId)
    (leftTitles : ∀ entry ∈ sections, (left.sectionTitles entry.sectionId).isSome)
    (rightTitles : ∀ entry ∈ sections, (right.sectionTitles entry.sectionId).isSome) :
    pyEq (.arr (((sections.map (sectionOf left findings)).map Prod.fst).map
          PayloadSection.json))
        (.arr (((sections.map (sectionOf right others)).map Prod.fst).map
          PayloadSection.json)) = true ↔
      ∀ entry ∈ sections, left.sectionTitles entry.sectionId =
        right.sectionTitles entry.sectionId := by
  simp only [pyEq_arr, List.forall₂_map_left_iff, List.forall₂_map_right_iff, List.forall₂_same]
  apply forall₂_congr
  intro entry listed
  refine (@PayloadSection.pyEq_json (sectionOf left findings entry).1
    (sectionOf right others entry).1 rfl rfl (cardIds_congr (facts entry.sectionId))).trans ?_
  obtain ⟨title, leftTitle⟩ := Option.isSome_iff_exists.mp (leftTitles entry listed)
  obtain ⟨other, rightTitle⟩ := Option.isSome_iff_exists.mp (rightTitles entry listed)
  simp [sectionOf, leftTitle, rightTitle]

end Walk

section Unchanged

variable {left right : CanonicalPayloadInputs}
  {findings others : List PayloadFinding}
  {glossary otherGlossary : List GlossaryEntry}
  {sections : List ReportSection}

/-- The compared payloads of a build. -/
def comparedBuild (inputs : CanonicalPayloadInputs) (findings : List PayloadFinding)
    (sections : List ReportSection) (glossary : List GlossaryEntry) :
    List (String × Json) :=
  let parts := sections.map (sectionOf inputs findings)
  comparedObject inputs findings (parts.map Prod.fst) (parts.map Prod.snd).flatten glossary

/-- Payloads that agree in what the hash covers do not differ just when they
agree in the rest. -/
theorem walk_comparedBuild
    (covered : SameCovered left right findings others glossary otherGlossary)
    (leftTitles : ∀ entry ∈ sections, (left.sectionTitles entry.sectionId).isSome)
    (rightTitles : ∀ entry ∈ sections, (right.sectionTitles entry.sectionId).isSome) :
    walk (.obj (comparedBuild left findings sections glossary))
        (.obj (comparedBuild right others sections otherGlossary)) "" = [] ↔
      SameUncovered sections left right := by
  have titles := pyEq_sections covered.facts leftTitles rightTitles
  simp only [comparedBuild, comparedObject]
  rw [walk_obj (by simp) (by simp)]
  simp only [List.forall₂_cons, List.forall₂_nil_left_iff, and_true,
    walk_arr, pyEq_texts, titles, walk_eq_nil_iff (.obj (identityObject left))]
  constructor
  · rintro ⟨_, propertyIdentity, summaryItems, sectionTitles, _, _,
      mediaSlots, diagramSlots, _, evidenceDisclosures, disclaimers, brand⟩
    rw [walk_obj (by simp) (by simp)] at brand
    simp only [List.forall₂_cons, walk_str] at brand
    exact
      { propertyIdentity := propertyIdentity
        summaryItems := summaryItems
        sectionTitles := sectionTitles
        disclaimers := disclaimers
        brandProfileId := brand.1
        brandVersion := brand.2.1
        mediaSlots := mediaSlots
        diagramSlots := diagramSlots
        evidenceDisclosures := evidenceDisclosures }
  · intro same
    have parts : sections.map (sectionOf left findings) =
        sections.map (sectionOf right others) := by
      apply List.map_congr_left
      intro entry listed
      exact sectionOf_congr (covered.facts _) same.summaryItems (same.sectionTitles entry listed)
    refine ⟨?_, same.propertyIdentity, same.summaryItems,
      same.sectionTitles, ?_, ?_, same.mediaSlots, same.diagramSlots, ?_,
      same.evidenceDisclosures, same.disclaimers, ?_⟩
    · rw [covered.metadata]
      exact walk_self (textual_comparedMetadata right).distinctKeys
    · rw [covered.projected]
      exact pyEq_refl (textual_projected _).distinctKeys
    · rw [parts]
      exact pyEq_refl (textual_cards _).distinctKeys
    · rw [covered.glossary]
      exact pyEq_refl (textual_glossary _).distinctKeys
    · rw [same.brandProfileId, same.brandVersion]
      exact walk_self (Textual.distinctKeys (by simp [textual_obj, IsTagged]))

end Unchanged

/-! ## Builds -/

/-- What a build hashes and what a diff compares of its payload. -/
structure Built (config : ReportConfig) (inputs : CanonicalPayloadInputs)
    (selections : List FindingSelection) (wordings : WordingByFinding)
    (build : ReportBuild) (hashed : List FindingInput) : Prop where
  findings : selections.mapM (findingInput wordings) = .ok hashed
  inputHash : sha256Canonical (inputProjection inputs.propertyId
      inputs.reportVariant hashed build.identity.manifest
      (config.versions inputs)) = .ok build.identity.inputHash
  distinct : (hashed.map FindingInput.findingId).Nodup
  types : hashed.map FindingInput.findingType = selections.map FindingSelection.findingType
  titles : ∀ entry ∈ config.sections.forVariant inputs.reportVariant,
    (inputs.sectionTitles entry.sectionId).isSome
  compared : semanticProjection build.payload = .ok (comparedBuild inputs
      (hashed.map (FindingInput.payload config.labels inputs.reportVariant inputs.snapshotId.str))
      (config.sections.forVariant inputs.reportVariant)
      (config.glossary.resolve (selections.map FindingSelection.findingType) inputs.reportVariant))

theorem findingInput_eq_ok {wordings : WordingByFinding} {selection : FindingSelection}
    {input : FindingInput} (hashed : findingInput wordings selection = .ok input) :
    selection.findingId = input.findingId ∧ selection.findingType = input.findingType := by
  obtain ⟨_, _, hashed⟩ := bind_eq_ok.mp hashed
  rw [← pure_eq_ok.mp hashed]
  exact ⟨rfl, rfl⟩

theorem exists_built {config : ReportConfig} {inputs : CanonicalPayloadInputs}
    {selections : List FindingSelection} {wordings : WordingByFinding} {build : ReportBuild}
    (built : buildReport config inputs selections wordings = .ok build) :
    ∃ hashed, Built config inputs selections wordings build hashed := by
  obtain ⟨identity, identified, built⟩ := bind_eq_ok.mp built
  obtain ⟨payload, filled, built⟩ := bind_eq_ok.mp built
  obtain ⟨manifest, listed, identified⟩ := bind_eq_ok.mp identified
  obtain ⟨hash, calculated, identified⟩ := bind_eq_ok.mp identified
  obtain ⟨hashed, read, calculated⟩ := bind_eq_ok.mp calculated
  obtain ⟨consumed, consumes, _⟩ := bind_eq_ok.mp listed
  rw [← pure_eq_ok.mp built]
  rw [← pure_eq_ok.mp identified] at filled ⊢
  simp only [CanonicalPayloadBuilder.build, require_bind_eq_ok] at filled
  obtain ⟨_, _, filled⟩ := filled
  obtain ⟨findings, foundFindings, filled⟩ := bind_eq_ok.mp filled
  obtain ⟨parts, foundParts, filled⟩ := bind_eq_ok.mp filled
  obtain ⟨_, _, filled⟩ := bind_eq_ok.mp filled
  have sameFindings := payloadFindings_eq foundFindings read
  obtain ⟨sameParts, titles⟩ := parts_eq foundParts
  have ids := map_eq_of_mapM read fun _ _ input =>
    (findingInput_eq_ok input).1
  have types := map_eq_of_mapM read fun _ _ input =>
    (findingInput_eq_ok input).2
  refine ⟨hashed, read, calculated, ?_, types.symm, titles, ?_⟩
  · rw [← ids]
    exact (nodup_of_selectionDependencies consumes).1
  · rw [← pure_eq_ok.mp filled, semanticProjection_payloadObject, sameParts, sameFindings]
    rfl

/-- What is hashed of a diff with these paths. -/
theorem textual_changes (found : List String) :
    Textual (.obj [("changed_paths", .arr ((sortedBy id found).map Json.str)),
        ("categories", .arr ((sortedBy id ((sortedBy id found).map
          category).dedup).map Json.str))]) := by
  simp [textual_obj, IsTagged]

section Covered

variable {config : ReportConfig} {left right : CanonicalPayloadInputs}
  {leftSelections rightSelections : List FindingSelection}
  {leftWordings rightWordings : WordingByFinding}
  {leftBuild rightBuild : ReportBuild}
  {leftHashed rightHashed : List FindingInput}

theorem sameCovered_of_sameInputs
    (leftBuilt : Built config left leftSelections leftWordings leftBuild leftHashed)
    (rightBuilt : Built config right rightSelections rightWordings rightBuild rightHashed)
    (same : SameInputs left.propertyId right.propertyId left.reportVariant
      right.reportVariant leftHashed rightHashed leftBuild.identity.manifest
      rightBuild.identity.manifest (config.versions left) (config.versions right)) :
    SameCovered left right
      (leftHashed.map (FindingInput.payload config.labels left.reportVariant left.snapshotId.str))
      (rightHashed.map (FindingInput.payload config.labels
        right.reportVariant right.snapshotId.str))
      (config.glossary.resolve (leftSelections.map FindingSelection.findingType) left.reportVariant)
      (config.glossary.resolve (rightSelections.map FindingSelection.findingType)
        right.reportVariant) := by
  have permuted := perm_of_sortedBy_eq same.findings
  have sorted : ∀ (inputs : CanonicalPayloadInputs)
      (hashed : List FindingInput),
      (sortedBy PayloadFinding.sortKey (hashed.map (FindingInput.payload
        config.labels inputs.reportVariant inputs.snapshotId.str))).map PayloadFinding.projected =
        (sortedBy FindingInput.sortKey hashed).map fun input =>
          (input.payload config.labels inputs.reportVariant "").projected := by
    intro inputs hashed
    have commutes := map_sortedBy (FindingInput.payload config.labels
      inputs.reportVariant inputs.snapshotId.str) PayloadFinding.sortKey
      hashed
    rw [← commutes, List.map_map]
    rfl
  have anonymous : ∀ (inputs : CanonicalPayloadInputs)
      (hashed : List FindingInput) (sectionId : String),
      factCards (hashed.map (FindingInput.payload config.labels
        inputs.reportVariant inputs.snapshotId.str)) sectionId =
        factCards (hashed.map (FindingInput.payload config.labels
          inputs.reportVariant "")) sectionId := by
    intro inputs hashed sectionId
    rw [← factCards_anonymous, List.map_map]
    rfl
  constructor
  · rw [comparedMetadata, comparedMetadata, same.propertyId, same.variant,
      show left.reportSchemaVersion = right.reportSchemaVersion from same.reportSchemaVersion,
      show left.contentContractVersion = right.contentContractVersion from
        same.contentContractVersion,
      show left.variantPolicyVersion = right.variantPolicyVersion from same.variantPolicyVersion]
  · rw [sorted, sorted, same.findings, same.variant]
  · intro sectionId
    rw [anonymous, anonymous, same.variant]
    apply factCards_of_perm (permuted.map _)
    rw [List.map_map]
    exact leftBuilt.distinct
  · rw [same.variant]
    apply GlossaryResolver.resolve_congr
    intro type
    rw [← leftBuilt.types, ← rightBuilt.types]
    exact (permuted.map _).mem_iff

theorem exists_compare
    (leftBuilt : Built config left leftSelections leftWordings leftBuild leftHashed)
    (rightBuilt : Built config right rightSelections rightWordings rightBuild rightHashed)
    (same : SameInputs left.propertyId right.propertyId left.reportVariant
      right.reportVariant leftHashed rightHashed leftBuild.identity.manifest
      rightBuild.identity.manifest (config.versions left) (config.versions right)) :
    ∃ diff, compare leftBuild.payload rightBuild.payload = .ok diff ∧
      (diff.changed = false ↔ SameUncovered
        (config.sections.forVariant left.reportVariant) left right) := by
  have covered := sameCovered_of_sameInputs leftBuilt rightBuilt same
  have rightTitles := rightBuilt.titles
  have rightCompared := rightBuilt.compared
  rw [← same.variant] at rightTitles rightCompared covered
  have unchanged := walk_comparedBuild covered leftBuilt.titles rightTitles
  obtain ⟨hash, hashed, _⟩ := (textual_changes (walk (.obj (comparedBuild left _ _ _))
    (.obj (comparedBuild right _ _ _)) "")).exists_sha256Canonical
  refine ⟨_, bind_eq_ok.mpr ⟨_, leftBuilt.compared, bind_eq_ok.mpr
    ⟨_, rightCompared, bind_eq_ok.mpr ⟨hash, hashed, rfl⟩⟩⟩, ?_⟩
  rw [← unchanged, Bool.not_eq_false', List.isEmpty_iff,
    ← List.length_eq_zero_iff, length_sortedBy, List.length_eq_zero_iff]

end Covered

/-! ## Reuse -/

/-- The texts that are hashed for the input hash of a build. -/
def inputTexts (config : ReportConfig) (inputs : CanonicalPayloadInputs)
    (selections : List FindingSelection) (wordings : WordingByFinding)
    (build : ReportBuild) : Set String :=
  {text | ∃ hashed, selections.mapM (findingInput wordings) = .ok hashed ∧
    canonicalJson (inputProjection inputs.propertyId inputs.reportVariant
      hashed build.identity.manifest (config.versions inputs)) = some text}

/-- A report that is reused has the content of the build that it stands for
just when the two agree in what the input hash does not cover. -/
theorem reused_report_unchanged_iff
    {config : ReportConfig} {left right : CanonicalPayloadInputs}
    {leftSelections rightSelections : List FindingSelection}
    {leftWordings rightWordings : WordingByFinding} {leftBuild rightBuild : ReportBuild}
    (leftBuilt : buildReport config left leftSelections leftWordings =
      .ok leftBuild)
    (rightBuilt : buildReport config right rightSelections rightWordings =
      .ok rightBuild)
    (equal : leftBuild.identity.inputHash = rightBuild.identity.inputHash)
    (collisionFree : Sha256.CollisionFree
      (inputTexts config left leftSelections leftWordings leftBuild ∪
        inputTexts config right rightSelections rightWordings rightBuild)) :
    ∃ diff, compare leftBuild.payload rightBuild.payload = .ok diff ∧
      (diff.changed = false ↔ SameUncovered
        (config.sections.forVariant left.reportVariant) left right) := by
  obtain ⟨leftHashed, leftSpec⟩ := exists_built leftBuilt
  obtain ⟨rightHashed, rightSpec⟩ := exists_built rightBuilt
  apply exists_compare leftSpec rightSpec
  apply sameInputs_of_same
  exact (textual_inputProjection _ _ _ _ _).same_of_sha256Canonical_eq
    (textual_inputProjection _ _ _ _ _) leftSpec.inputHash
    (equal ▸ rightSpec.inputHash) collisionFree
    (fun _ written => .inl ⟨leftHashed, leftSpec.findings, written⟩)
    (fun _ written => .inr ⟨rightHashed, rightSpec.findings, written⟩)

/-- The inputs of a report without findings that shows one disclaimer. -/
def bareInputs (disclaimer : String) : CanonicalPayloadInputs where
  propertyId := 2
  snapshotId := 1
  reportVariant := .pub
  reportSchemaVersion := "1.0.0"
  contentContractVersion := "1.0.0"
  variantPolicyVersion := "1.0.0"
  verifiedThrough := "2026-07-01T00:00:00+00:00"
  propertyIdentity := []
  summaryItems := ["A summary."]
  sectionTitles := some
  disclaimers := [disclaimer]
  brandProfileId := "BRAND"
  brandVersion := "1"
  marketDataThrough := none
  builderDataThrough := none
  mediaSlots := []
  diagramSlots := []
  evidenceDisclosures := []

theorem plainContent_bareInputs (disclaimer : String) :
    (bareInputs disclaimer).PlainContent where
  propertyIdentity := by
    change Plain (.obj [("property_id", .str (bareInputs disclaimer).propertyId.str),
        ("community", .str "San Tan Heights"), ("phase", .null),
        ("builder", .null), ("floor_plan", .null)])
    apply plain_obj
    simp only [List.forall_mem_cons, plain_str, plain_null, and_true,
      List.not_mem_nil, false_implies, implies_true]
    refine ⟨?_, ?_, ?_, ?_, ?_⟩ <;> exact isPresentationKey_ofList rfl
  mediaSlots := plain_arr fun _ => nofun
  diagramSlots := plain_arr fun _ => nofun
  evidenceDisclosures := plain_arr fun _ => nofun

/-- The cross references of a report without findings are consistent. -/
theorem validate_bareInputs (disclaimer manifestHash : String) :
    let entries := sampleConfig.sections.forVariant .pub
    let parts := entries.map (sectionOf (bareInputs disclaimer) [])
    sampleConfig.schema.validate (.obj (payloadObject (bareInputs disclaimer)
      [] (parts.map Prod.fst) (parts.map Prod.snd).flatten
      (sampleConfig.glossary.resolve [] .pub) manifestHash)) = .ok () := by
  intro entries parts
  have summary : summaryCard (bareInputs disclaimer) ∈
      (parts.map Prod.snd).flatten := List.mem_singleton_self _
  have only : ∀ card ∈ (parts.map Prod.snd).flatten,
      card = summaryCard (bareInputs disclaimer) :=
    fun card present => List.mem_singleton.mp present
  refine (validate_payloadObject_iff (plainContent_bareInputs disclaimer)).mpr ⟨rfl, ?_⟩
  refine ⟨?_, ?_, ?_, fun _ => nofun, ?_, ?_⟩
  · exact reportSections.distinct
  · rw [List.pairwise_map, List.pairwise_map, List.pairwise_map]
    exact reportSections.ascending.filter _
  · exact List.nodup_singleton _
  · intro card present
    rw [only card present]
    exact ⟨List.mem_cons_self, fun _ => nofun⟩
  · intro entry present cardId named
    obtain ⟨part, listed, rfl⟩ := List.mem_map.mp present
    obtain ⟨filled, -, rfl⟩ := List.mem_map.mp listed
    obtain ⟨card, own, rfl⟩ := List.mem_map.mp named
    apply List.mem_map_of_mem
    exact List.mem_flatten.mpr ⟨_, List.mem_map_of_mem (f := Prod.snd) listed, own⟩

/-- Reports that differ in their disclaimer have one identity. -/
theorem exists_bareBuilds (first second : String) :
    ∃ firstBuild secondBuild,
      buildReport sampleConfig (bareInputs first) [] [] = .ok firstBuild ∧
        buildReport sampleConfig (bareInputs second) [] [] = .ok secondBuild ∧
          firstBuild.identity = secondBuild.identity := by
  have versioned : ∀ item ∈ (sampleConfig.versions
      (bareInputs "")).configEntries, Text.isBlank item.2.2 = false := by
    decide
  have distinct : ((sampleConfig.versions
      (bareInputs "")).configEntries.map configKey).Nodup := by
    decide
  obtain ⟨identity, identified, _⟩ := @exists_identify ⟨2, by decide⟩
    ⟨1, by decide⟩ .pub (sampleConfig.versions (bareInputs "")) [] [] [] rfl
    versioned distinct
  have filled : ∀ disclaimer, ∃ payload, sampleConfig.payloadBuilder.build
      (bareInputs disclaimer) [] [] (sampleConfig.glossary.resolve [] .pub)
      identity.manifest = .ok payload := fun disclaimer =>
    ⟨_, bind_eq_ok.mpr ⟨(), rfl, bind_eq_ok.mpr ⟨(), rfl, bind_eq_ok.mpr
      ⟨[], rfl, bind_eq_ok.mpr ⟨_, rfl, bind_eq_ok.mpr
        ⟨(), validate_bareInputs disclaimer _, rfl⟩⟩⟩⟩⟩⟩
  obtain ⟨firstPayload, firstFilled⟩ := filled first
  obtain ⟨secondPayload, secondFilled⟩ := filled second
  exact ⟨⟨identity, firstPayload⟩, ⟨identity, secondPayload⟩,
    bind_eq_ok.mpr ⟨identity, identified, bind_eq_ok.mpr ⟨_, firstFilled, rfl⟩⟩,
    bind_eq_ok.mpr ⟨identity, identified, bind_eq_ok.mpr ⟨_, secondFilled, rfl⟩⟩, rfl⟩

theorem reused_report_unchanged_iff_sample :
    ∃ build, buildReport sampleConfig (bareInputs "A disclaimer.") [] [] =
          .ok build ∧
        ∃ diff, compare build.payload build.payload = .ok diff ∧
          (diff.changed = false ↔ SameUncovered
            (sampleConfig.sections.forVariant .pub)
            (bareInputs "A disclaimer.") (bareInputs "A disclaimer.")) := by
  obtain ⟨build, _, built, _⟩ :=
    exists_bareBuilds "A disclaimer." "A disclaimer."
  have oneText : Sha256.CollisionFree
      (inputTexts sampleConfig (bareInputs "A disclaimer.") [] [] build ∪
        inputTexts sampleConfig (bareInputs "A disclaimer.") [] [] build) := by
    rw [Set.union_self]
    rintro first ⟨firstHashed, firstRead, firstText⟩ second
      ⟨secondHashed, secondRead, secondText⟩ _
    rw [firstRead, Except.ok.injEq] at secondRead
    rw [← secondRead, firstText] at secondText
    exact Option.some.inj secondText
  exact ⟨build, built, reused_report_unchanged_iff built built rfl oneText⟩

/-- A report is reused although its disclaimer is no longer the approved
one. -/
theorem dedup_swallows_disclaimer :
    ∃ stored new diff,
      buildReport sampleConfig (bareInputs "A disclaimer.") [] [] = .ok stored ∧
        buildReport sampleConfig (bareInputs "Another disclaimer.") [] [] =
            .ok new ∧
          stored.identity.inputHash = new.identity.inputHash ∧
            compare stored.payload new.payload = .ok diff ∧
              diff.changed = true := by
  obtain ⟨stored, new, built, rebuilt, same⟩ :=
    exists_bareBuilds "A disclaimer." "Another disclaimer."
  obtain ⟨hashed, spec⟩ := exists_built built
  obtain ⟨others, otherSpec⟩ := exists_built rebuilt
  have noFindings := pure_eq_ok.mp spec.findings
  have noOthers := pure_eq_ok.mp otherSpec.findings
  subst noFindings noOthers
  have inputs : SameInputs ⟨2, by decide⟩ ⟨2, by decide⟩ .pub .pub [] []
      stored.identity.manifest new.identity.manifest
      (sampleConfig.versions (bareInputs ""))
      (sampleConfig.versions (bareInputs "")) :=
    ⟨rfl, rfl, rfl, by rw [same], rfl, rfl, rfl, rfl, rfl⟩
  obtain ⟨diff, compared, unchanged⟩ := exists_compare spec otherSpec inputs
  refine ⟨stored, new, diff, built, rebuilt, congrArg _ same, compared, ?_⟩
  rw [← Bool.not_eq_false, unchanged]
  exact fun agree => absurd agree.disclaimers (by decide)

end SanTanHeights.Report
