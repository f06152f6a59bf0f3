import SanTanHeights.Report.Structure

/-!
# Fallback behaviour of sections

The registry names a fallback for a section that stays empty: block the
report where the section is required, or leave the section out.  The builder
writes every section of the variant and reads no fallback.
-/

namespace SanTanHeights.Report

open Foundation Foundation.Json Foundation.Outcome
open Shared

/-- The registry requires the section in a variant, and findings fill it. -/
def ReportSection.Blocks (entry : ReportSection) (variant : Variant) : Prop :=
  variant ∈ entry.requiredByVariant ∧ entry.findingTypes ≠ []

instance (entry : ReportSection) (variant : Variant) : Decidable (entry.Blocks variant) :=
  inferInstanceAs (Decidable (_ ∧ _))

/-- The registry leaves the section out of a variant if it is empty. -/
def ReportSection.Omitted (entry : ReportSection) (variant : Variant) : Prop :=
  variant ∈ entry.allowedVariants ∧ entry.fallbackBehavior = .omitIfEmpty

instance (entry : ReportSection) (variant : Variant) : Decidable (entry.Omitted variant) :=
  inferInstanceAs (Decidable (_ ∧ _))

/-- The sections of a payload follow the fallbacks of the registry. -/
structure FallbacksEnforced (registry : ReportSectionRegistry) (variant : Variant)
    (sections : List PayloadSection) : Prop where
  required : ∀ entry ∈ registry.sections, entry.Blocks variant →
    ∃ filled ∈ sections, filled.sectionId = entry.sectionId ∧ filled.cardIds ≠ []
  omitted : ∀ filled ∈ sections, filled.cardIds = [] →
    ∀ entry ∈ registry.sections, entry.sectionId = filled.sectionId →
      entry.fallbackBehavior ≠ .omitIfEmpty

/-- A section whose fallback matters has something to show. -/
def FallbacksIdle (registry : ReportSectionRegistry) (variant : Variant)
    (selections : List FindingSelection) : Prop :=
  ∀ entry ∈ registry.sections, entry.Blocks variant ∨ entry.Omitted variant →
      entry.sectionId = "summary" ∨ ∃ selection ∈ selections, selection.sectionId = entry.sectionId

/-! ## Filled sections -/

section Filled

variable {registry : ReportSectionRegistry} {variant : Variant}
  {inputs : CanonicalPayloadInputs} {findings : List PayloadFinding}
  {entry other : ReportSection}

/-- A section shows a card for the summary or for a finding. -/
theorem cardIds_ne_nil_iff : (sectionOf inputs findings entry).1.cardIds ≠ [] ↔
      entry.sectionId = "summary" ∨ ∃ finding ∈ findings, finding.sectionId = entry.sectionId := by
  change (sectionCards inputs findings entry).map Card.cardId ≠ [] ↔ _
  rw [map_cardId_sectionCards, Ne, List.append_eq_nil_iff, not_and_or,
    List.map_eq_nil_iff, List.eq_nil_iff_forall_not_mem, not_forall]
  simp only [not_not, mem_sectionFindingIds]
  constructor
  · rintro (⟨findingId, finding, present, own, -⟩ | summary)
    · exact .inr ⟨finding, present, own⟩
    · apply Or.inl
      by_contra different
      exact summary (if_neg different)
  · rintro (summary | ⟨finding, present, own⟩)
    · rw [if_pos summary]
      exact .inr (List.cons_ne_nil _ _)
    · exact .inl ⟨finding.findingId, finding, present, own, rfl⟩

/-- Sections of a registry are told apart by their identifiers. -/
theorem ReportSectionRegistry.eq_of_sectionId (present : entry ∈ registry.sections)
    (otherPresent : other ∈ registry.sections)
    (same : entry.sectionId = other.sectionId) : entry = other :=
  List.inj_on_of_nodup_map registry.distinct present otherPresent same

theorem ReportSectionRegistry.mem_forVariant :
    entry ∈ registry.forVariant variant ↔
      entry ∈ registry.sections ∧ variant ∈ entry.allowedVariants := by
  unfold ReportSectionRegistry.forVariant
  rw [List.mem_filter, decide_eq_true_eq]

/-- What is required of a section is allowed. -/
theorem ReportSectionRegistry.mem_forVariant_of_blocks
    (present : entry ∈ registry.sections) (blocks : entry.Blocks variant) :
    entry ∈ registry.forVariant variant :=
  mem_forVariant.mpr ⟨present, (registry.consistent entry present).1 blocks.1⟩

/-- The filled sections follow the fallbacks just when no fallback
matters. -/
theorem fallbacksEnforced_filled_iff :
    FallbacksEnforced registry variant
        (filledSections inputs findings (registry.forVariant variant)) ↔
      ∀ entry ∈ registry.sections,
        entry.Blocks variant ∨ entry.Omitted variant →
          entry.sectionId = "summary" ∨
            ∃ finding ∈ findings, finding.sectionId = entry.sectionId := by
  simp only [← @cardIds_ne_nil_iff inputs findings]
  constructor
  · rintro ⟨required, omitted⟩ entry present (blocks | omits)
    · obtain ⟨filled, listed, same, shown⟩ := required entry present blocks
      obtain ⟨other, allowed, rfl⟩ := List.mem_map.mp listed
      have registered := (ReportSectionRegistry.mem_forVariant.mp allowed).1
      rwa [registry.eq_of_sectionId present registered same.symm]
    · intro empty
      have listed : (sectionOf inputs findings entry).1 ∈
          filledSections inputs findings (registry.forVariant variant) :=
        List.mem_map_of_mem (ReportSectionRegistry.mem_forVariant.mpr ⟨present, omits.1⟩)
      exact omitted _ listed empty entry present rfl omits.2
  · intro idle
    constructor
    · intro entry present blocks
      exact ⟨_, List.mem_map_of_mem (registry.mem_forVariant_of_blocks present blocks), rfl,
        idle entry present (.inl blocks)⟩
    · intro filled listed empty entry present same omits
      obtain ⟨other, allowed, rfl⟩ := List.mem_map.mp listed
      obtain ⟨registered, own⟩ := ReportSectionRegistry.mem_forVariant.mp allowed
      obtain rfl := registry.eq_of_sectionId present registered same
      exact idle entry present (.inr ⟨own, omits⟩) empty

end Filled

/-! ## Payloads -/

/-- The content of a section is read back from the payload. -/
theorem PayloadSection.json_injective : Function.Injective PayloadSection.json := by
  intro first second same
  have texts : Function.Injective Json.str := fun _ _ => Json.str.inj
  simp only [PayloadSection.json, Json.obj.injEq, List.cons.injEq,
    Prod.mk.injEq, Json.str.injEq, Json.int.injEq, Json.arr.injEq, true_and, and_true] at same
  obtain ⟨sectionId, title, order, cardIds⟩ := same
  obtain ⟨⟩ := first
  rw [PayloadSection.mk.injEq]
  exact ⟨sectionId, title, order, (List.map_injective_iff.mpr texts) cardIds⟩

/-- A payload follows the fallbacks of the registry. -/
def PayloadEnforces (registry : ReportSectionRegistry) (variant : Variant)
    (payload : List (String × Json)) : Prop :=
  ∃ sections, payload.lookup "sections" =
        some (.arr (sections.map PayloadSection.json)) ∧
      FallbacksEnforced registry variant sections

theorem payloadEnforces_assemble_iff
    {builder : CanonicalPayloadBuilder} {inputs : CanonicalPayloadInputs}
    {findings : List PayloadFinding} {glossary : List GlossaryEntry}
    {manifest : ReportDependencyManifest} :
    PayloadEnforces builder.sections inputs.reportVariant
        (builder.assemble inputs findings glossary manifest) ↔
      FallbacksEnforced builder.sections inputs.reportVariant
        (filledSections inputs findings (builder.sections.forVariant inputs.reportVariant)) := by
  constructor
  · rintro ⟨sections, shown, enforced⟩
    have same : some (Json.arr ((filledSections inputs findings
        (builder.sections.forVariant inputs.reportVariant)).map PayloadSection.json)) =
        some (.arr (sections.map PayloadSection.json)) := shown
    rw [Option.some.injEq, Json.arr.injEq] at same
    rwa [List.map_injective_iff.mpr PayloadSection.json_injective same]
  · exact fun enforced => ⟨_, rfl, enforced⟩

/-- A payload follows the fallbacks of the registry just when every section
whose fallback matters shows a selected finding or the summary. -/
theorem fallbacks_enforced_iff
    {builder : CanonicalPayloadBuilder} {inputs : CanonicalPayloadInputs}
    {selections : List FindingSelection} {wordings : WordingByFinding}
    {glossary : List GlossaryEntry} {manifest : ReportDependencyManifest}
    {payload : List (String × Json)}
    (built : builder.build inputs selections wordings glossary manifest =
      .ok payload) :
    PayloadEnforces builder.sections inputs.reportVariant payload ↔
      FallbacksIdle builder.sections inputs.reportVariant selections := by
  obtain ⟨-, -, -, findings, filled, -, rfl⟩ := build_eq_ok.mp built
  have same : ∀ sectionId,
      (∃ finding ∈ findings, finding.sectionId = sectionId) ↔
        ∃ selection ∈ selections, selection.sectionId = sectionId := by
    intro sectionId
    constructor
    · rintro ⟨finding, present, own⟩
      obtain ⟨selection, selected, made⟩ :=
        (mem_mapM_iff filled).mp present
      exact ⟨selection, selected, (payloadFinding_ids made).2 ▸ own⟩
    · rintro ⟨selection, selected, own⟩
      obtain ⟨finding, present, made⟩ := exists_ok_of_mapM filled selected
      exact ⟨finding, present, (payloadFinding_ids made).2.trans own⟩
  rw [payloadEnforces_assemble_iff, fallbacksEnforced_filled_iff]
  simp only [same]
  rfl

theorem fallbacks_enforced_iff_sample :
    PayloadEnforces reportSections .pub samplePoolPayload ↔
      FallbacksIdle reportSections .pub [samplePool] :=
  fallbacks_enforced_iff build_samplePool

/-- The report of a pool is built without the identity of its property, and
with an empty section for market context. -/
theorem fallbacks_not_enforced :
    sampleConfig.payloadBuilder.build (bareInputs "A disclaimer.")
        [samplePool] [("F1", ⟨"Pool", "1"⟩)] [] ⟨[], ""⟩ =
          .ok samplePoolPayload ∧
      ¬ PayloadEnforces reportSections .pub samplePoolPayload := by
  refine ⟨build_samplePool, ?_⟩
  change ¬ PayloadEnforces sampleConfig.payloadBuilder.sections
    (bareInputs "A disclaimer.").reportVariant samplePoolPayload
  unfold samplePoolPayload
  rw [payloadEnforces_assemble_iff, fallbacksEnforced_filled_iff]
  change ¬ ∀ entry ∈ reportSections.sections,
    entry.Blocks .pub ∨ entry.Omitted .pub →
      entry.sectionId = "summary" ∨
        ∃ finding ∈ [samplePoolFinding], finding.sectionId = entry.sectionId
  decide

end SanTanHeights.Report
