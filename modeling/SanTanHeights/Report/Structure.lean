import SanTanHeights.Report.Deduplication

/-!
# The structure of a payload

`build` fills findings, cards and sections in three passes, and the schema
checks the identifiers that it generates.  Both together leave every selected
finding on exactly one card of its own section.
-/

namespace SanTanHeights.Report

open Foundation Foundation.Json Foundation.Sorting Foundation.Outcome Shared

/-! ## The parts of a payload -/

/-- A card shows a finding. -/
def Card.Shows (card : Card) (findingId : String) : Prop :=
  card.cardType = "FACT_CARD" ∧ findingId ∈ card.findingIds

instance (card : Card) (findingId : String) : Decidable (card.Shows findingId) :=
  inferInstanceAs (Decidable (_ ∧ _))

/-- A finding is on one card, which its own section lists and no other. -/
structure ShownOnce (sections : List PayloadSection) (cards : List Card)
    (findingId sectionId : String) (card : Card) : Prop where
  only : cards.filter (fun card => card.Shows findingId) = [card]
  own : card.sectionId = sectionId
  listed : ∃ entry ∈ sections, entry.sectionId = sectionId
  ofSection : ∀ entry ∈ sections, card.cardId ∈ entry.cardIds ↔ entry.sectionId = sectionId

/-- The sections of a payload and its cards. -/
structure Structured (builder : CanonicalPayloadBuilder) (variant : Variant)
    (selections : List FindingSelection)
    (sections : List PayloadSection) (cards : List Card) : Prop where
  shown : ∀ selection ∈ selections, ∃ card,
    ShownOnce sections cards selection.findingId selection.sectionId card
  listedOnce : (sections.flatMap PayloadSection.cardIds).Nodup
  exist : ∀ entry ∈ sections, ∀ cardId ∈ entry.cardIds, ∃ card ∈ cards, card.cardId = cardId
  allowed : sections.map (fun entry => (entry.sectionId, entry.order)) =
    (builder.sections.forVariant variant).map fun entry => (entry.sectionId, entry.order)
  ascending : sections.Pairwise fun first second => first.order < second.order

/-! ## What a build fills -/

/-- The sections of a payload. -/
def filledSections (inputs : CanonicalPayloadInputs) (findings : List PayloadFinding)
    (entries : List ReportSection) : List PayloadSection :=
  entries.map fun entry => (sectionOf inputs findings entry).1

/-- The cards of a payload. -/
def filledCards (inputs : CanonicalPayloadInputs) (findings : List PayloadFinding)
    (entries : List ReportSection) : List Card :=
  entries.flatMap (sectionCards inputs findings)

/-- The payload that a build writes for its findings. -/
def CanonicalPayloadBuilder.assemble
    (builder : CanonicalPayloadBuilder) (inputs : CanonicalPayloadInputs)
    (findings : List PayloadFinding) (glossary : List GlossaryEntry)
    (manifest : ReportDependencyManifest) : List (String × Json) :=
  let entries := builder.sections.forVariant inputs.reportVariant
  payloadObject inputs findings (filledSections inputs findings entries)
    (filledCards inputs findings entries) glossary manifest.manifestHash

section Build

variable {builder : CanonicalPayloadBuilder}
  {inputs : CanonicalPayloadInputs} {selections : List FindingSelection}
  {wordings : WordingByFinding} {glossary : List GlossaryEntry}
  {manifest : ReportDependencyManifest} {payload : List (String × Json)}

theorem payloadSection_iff {findings : List PayloadFinding} {entry : ReportSection}
    {part : PayloadSection × List Card} :
    payloadSection inputs findings entry = .ok part ↔
      ((inputs.sectionTitles entry.sectionId).filter
        fun title => title ≠ "").isSome = true ∧
        sectionOf inputs findings entry = part := by
  constructor
  · intro filled
    refine ⟨?_, (payloadSection_eq_ok filled).1.symm⟩
    obtain ⟨title, approved, -⟩ := bind_eq_ok.mp filled
    rw [orRaise_eq_ok.mp approved]
    rfl
  · rintro ⟨titled, rfl⟩
    obtain ⟨title, approved⟩ := Option.isSome_iff_exists.mp titled
    refine bind_eq_ok.mpr ⟨title, orRaise_eq_ok.mpr approved, ?_⟩
    rw [Option.filter_eq_some_iff] at approved
    rw [pure_eq_ok, sectionOf, approved.1]
    rfl

/-- What a build needs, and what it writes. -/
theorem build_eq_ok :
    builder.build inputs selections wordings glossary manifest = .ok payload ↔
      inputs.summaryItems ≠ [] ∧ inputs.disclaimers ≠ [] ∧
        (∀ entry ∈ builder.sections.forVariant inputs.reportVariant,
          ((inputs.sectionTitles entry.sectionId).filter fun title => title ≠ "").isSome = true) ∧
        ∃ findings,
          selections.mapM (payloadFinding builder.labels inputs wordings) = .ok findings ∧
          builder.schema.validate (.obj (builder.assemble inputs findings
            glossary manifest)) = .ok () ∧
          builder.assemble inputs findings glossary manifest = payload := by
  have parts : ∀ findings, payloadObject inputs findings
          (((builder.sections.forVariant inputs.reportVariant).map
            (sectionOf inputs findings)).map Prod.fst)
          (((builder.sections.forVariant inputs.reportVariant).map
            (sectionOf inputs findings)).map Prod.snd).flatten glossary
          manifest.manifestHash =
        builder.assemble inputs findings glossary manifest := by
    intro findings
    rw [List.map_map, List.map_map]
    rfl
  unfold CanonicalPayloadBuilder.build
  rw [require_bind_eq_ok, require_bind_eq_ok]
  simp only [bind_eq_ok, mapM_eq_ok_map (fun _ _ => payloadSection_iff), pure_eq_ok]
  constructor
  · rintro ⟨summary, disclaimers, findings, filled, _, ⟨titled, rfl⟩, _, valid, written⟩
    rw [parts] at valid written
    exact ⟨summary, disclaimers, titled, findings, filled, valid, written⟩
  · rintro ⟨summary, disclaimers, titled, findings, filled, valid, written⟩
    refine ⟨summary, disclaimers, findings, filled, _, ⟨titled, rfl⟩, (), ?_⟩
    rw [parts]
    exact ⟨valid, written⟩

end Build

/-! ## Cards of findings -/

section Cards

variable {findings : List PayloadFinding} {sectionId findingId : String}
  {card : Card}

theorem mem_sectionFindingIds :
    findingId ∈ sectionFindingIds findings sectionId ↔
      ∃ finding ∈ findings, finding.sectionId = sectionId ∧ finding.findingId = findingId := by
  unfold sectionFindingIds
  rw [mem_sortedBy, List.mem_map]
  simp only [List.mem_filter, decide_eq_true_eq, and_assoc]

/-- The generated identifier of a card tells its finding. -/
theorem cardId_injective :
    Function.Injective fun findingId : String => "finding:" ++ findingId :=
  fun _ _ same => (String.append_right_inj _).mp same

theorem findingCard_eq_some (found : findingCard findings sectionId findingId = some card) :
    card.cardId = "finding:" ++ findingId ∧ card.cardType = "FACT_CARD" ∧
      card.sectionId = sectionId ∧ card.findingIds = [findingId] := by
  obtain ⟨finding, -, rfl⟩ := Option.map_eq_some_iff.mp found
  exact ⟨rfl, rfl, rfl, rfl⟩

theorem exists_findingCard (present : findingId ∈ sectionFindingIds findings sectionId) :
    ∃ card, findingCard findings sectionId findingId = some card := by
  obtain ⟨finding, listed, -, same⟩ := mem_sectionFindingIds.mp present
  apply Option.isSome_iff_exists.mp
  unfold findingCard
  rw [Option.isSome_map, List.find?_isSome]
  exact ⟨finding, listed, decide_eq_true same⟩

theorem map_cardId_factCards : (factCards findings sectionId).map Card.cardId =
      (sectionFindingIds findings sectionId).map fun findingId =>
        "finding:" ++ findingId := by
  unfold factCards
  rw [List.map_filterMap, ← List.filterMap_eq_map]
  apply List.filterMap_congr
  intro findingId present
  obtain ⟨card, found⟩ := exists_findingCard present
  rw [found, Option.map_some, (findingCard_eq_some found).1]
  rfl

/-- A card of a section is the summary or shows a finding of the section. -/
theorem mem_sectionCards {inputs : CanonicalPayloadInputs} {entry : ReportSection} :
    card ∈ sectionCards inputs findings entry ↔
      (∃ findingId ∈ sectionFindingIds findings entry.sectionId,
        findingCard findings entry.sectionId findingId = some card) ∨
        (entry.sectionId = "summary" ∧ card = summaryCard inputs) := by
  unfold sectionCards
  rw [List.mem_append, List.mem_filterMap]
  split_ifs with summary
  · rw [List.mem_singleton]
    simp only [summary, true_and]
  · simp only [summary, false_and, List.not_mem_nil]

theorem map_cardId_sectionCards {inputs : CanonicalPayloadInputs} {entry : ReportSection} :
    (sectionCards inputs findings entry).map Card.cardId =
      (sectionFindingIds findings entry.sectionId).map (fun findingId =>
        "finding:" ++ findingId) ++
        if entry.sectionId = "summary" then ["summary:primary"] else [] := by
  unfold sectionCards
  rw [List.map_append, ← map_cardId_factCards]
  split_ifs <;> rfl

end Cards

/-! ## Distinct findings -/

/-- Items whose parts have no key in common, and no key twice, have distinct
keys. -/
theorem nodup_of_parts {α ι κ : Type} {part : α → ι} {key : α → κ} {items : List α}
    {ids : ι → List κ} {parts : List ι}
    (holds : ∀ index item, item ∈ items → part item = index → key item ∈ ids index)
    (within : ∀ index ∈ parts, ∀ item other, [item, other].Sublist items →
      part item = index → part other = index → key item ≠ key other)
    (apart : parts.Pairwise fun index other => (ids index).Disjoint (ids other))
    (covered : ∀ item ∈ items, part item ∈ parts) : (items.map key).Nodup := by
  rw [List.Nodup, List.pairwise_map, List.pairwise_iff_forall_sublist]
  intro item other below same
  have itemListed := below.subset List.mem_cons_self
  have otherListed := below.subset (List.mem_cons_of_mem _ (List.mem_singleton_self _))
  by_cases shared : part item = part other
  · exact within _ (covered other otherListed) item other below shared rfl same
  · have symmetric : Std.Symm fun index other =>
        (ids index).Disjoint (ids other) :=
      ⟨fun _ _ => List.Disjoint.symm⟩
    have disjoint := apart.forall (covered item itemListed) (covered other otherListed) shared
    apply disjoint (holds _ item itemListed rfl)
    rw [same]
    exact holds _ other otherListed rfl

section Distinct

variable {inputs : CanonicalPayloadInputs} {findings : List PayloadFinding}
  {entries : List ReportSection}

theorem sectionIds_filledSections :
    (filledSections inputs findings entries).map PayloadSection.sectionId =
      entries.map ReportSection.sectionId := by
  unfold filledSections
  rw [List.map_map]
  rfl

theorem cardIds_filledSections :
    (filledSections inputs findings entries).flatMap PayloadSection.cardIds =
      (filledCards inputs findings entries).map Card.cardId := by
  unfold filledSections filledCards
  rw [List.flatMap_map, List.map_flatMap]
  rfl

/-- The schema accepts no finding twice. -/
theorem distinct_of_crossReferenced
    (referenced : CrossReferenced findings (filledSections inputs findings entries)
      (filledCards inputs findings entries)) :
    (findings.map PayloadFinding.findingId).Nodup := by
  have cards := referenced.distinctCards
  have sectioned := referenced.ofFinding
  unfold filledCards at cards
  rw [List.map_flatMap, List.nodup_flatMap] at cards
  simp only [map_cardId_sectionCards] at cards
  rw [sectionIds_filledSections] at sectioned
  have ids : ∀ sectionId ∈ entries.map ReportSection.sectionId,
      (sectionFindingIds findings sectionId).Nodup := by
    intro sectionId listed
    obtain ⟨entry, present, rfl⟩ := List.mem_map.mp listed
    have each := (List.nodup_append.mp (cards.1 entry present)).1
    exact each.of_map
  refine @nodup_of_parts _ _ _ PayloadFinding.sectionId
    PayloadFinding.findingId findings (sectionFindingIds findings)
    (entries.map ReportSection.sectionId) ?_ ?_ ?_ ?_
  · intro sectionId finding present own
    exact mem_sectionFindingIds.mpr ⟨finding, present, own, rfl⟩
  · intro sectionId listed finding other below own otherOwn same
    have each := ids sectionId listed
    unfold sectionFindingIds at each
    rw [(sortedBy_perm id _).nodup_iff] at each
    have kept := below.filter fun finding =>
      decide (finding.sectionId = sectionId)
    rw [List.filter_cons, decide_eq_true own, if_pos rfl, List.filter_cons,
      decide_eq_true otherOwn, if_pos rfl, List.filter_nil] at kept
    have twice := (kept.map PayloadFinding.findingId).nodup each
    rw [List.map_cons, List.map_cons, same] at twice
    exact absurd twice (by simp)
  · rw [List.pairwise_map]
    refine cards.2.imp fun disjoint => ?_
    intro findingId first second
    apply disjoint
    · exact List.mem_append_left _ (List.mem_map.mpr ⟨findingId, first, rfl⟩)
    · exact List.mem_append_left _ (List.mem_map.mpr ⟨findingId, second, rfl⟩)
  · exact sectioned

/-! ## Findings on cards -/

theorem filter_eq_singleton {α : Type} {keep : α → Bool} {items : List α} {item : α}
    (distinct : items.Nodup) (present : item ∈ items) (kept : keep item = true)
    (only : ∀ other ∈ items, keep other = true → other = item) :
    items.filter keep = [item] := by
  apply List.perm_singleton.mp
  rw [List.perm_ext_iff_of_nodup (distinct.filter keep) (List.nodup_singleton item)]
  intro other
  rw [List.mem_filter, List.mem_singleton]
  constructor
  · exact fun ⟨listed, holds⟩ => only other listed holds
  · rintro rfl
    exact ⟨present, kept⟩

theorem not_summary (findingId : String) : "finding:" ++ findingId ≠ "summary:primary" := by
  intro same
  have letters := congrArg String.toList same
  rw [String.toList_append] at letters
  have first : some 'f' = some 's' := congrArg List.head? letters
  exact absurd first (by decide)

/-- A finding of a payload that the schema accepts is on one card. -/
theorem exists_shownOnce
    (referenced : CrossReferenced findings (filledSections inputs findings entries)
      (filledCards inputs findings entries))
    {finding : PayloadFinding} (present : finding ∈ findings) :
    ∃ card, ShownOnce (filledSections inputs findings entries)
      (filledCards inputs findings entries) finding.findingId
      finding.sectionId card := by
  have distinct := distinct_of_crossReferenced referenced
  have sectioned := referenced.ofFinding finding present
  rw [sectionIds_filledSections] at sectioned
  obtain ⟨entry, listed, own⟩ := List.mem_map.mp sectioned
  have shown : finding.findingId ∈
      sectionFindingIds findings entry.sectionId :=
    mem_sectionFindingIds.mpr ⟨finding, present, own.symm, rfl⟩
  -- A section that shows the finding is the section of the finding.
  have same : ∀ sectionId,
      finding.findingId ∈ sectionFindingIds findings sectionId → sectionId = finding.sectionId := by
    intro sectionId shows
    obtain ⟨other, otherPresent, rfl, equal⟩ := mem_sectionFindingIds.mp shows
    rw [List.inj_on_of_nodup_map distinct otherPresent present equal]
  obtain ⟨card, found⟩ := exists_findingCard shown
  obtain ⟨cardId, cardType, cardSection, findingIds⟩ := findingCard_eq_some found
  have placed : card ∈ filledCards inputs findings entries :=
    List.mem_flatMap.mpr ⟨entry, listed, mem_sectionCards.mpr (.inl ⟨_, shown, found⟩)⟩
  refine ⟨card, ?_, cardSection.trans own, ?_, ?_⟩
  · apply filter_eq_singleton referenced.distinctCards.of_map placed
    · refine decide_eq_true ⟨cardType, ?_⟩
      rw [findingIds]
      exact List.mem_singleton_self _
    · intro other otherPlaced shows
      obtain ⟨type, showsFinding⟩ := of_decide_eq_true shows
      obtain ⟨otherEntry, -, otherCard⟩ := List.mem_flatMap.mp otherPlaced
      rcases mem_sectionCards.mp otherCard with
        ⟨findingId, otherShown, otherFound⟩ | ⟨-, rfl⟩
      · rw [(findingCard_eq_some otherFound).2.2.2, List.mem_singleton] at showsFinding
        subst showsFinding
        rw [same _ otherShown, ← own, found] at otherFound
        exact (Option.some.inj otherFound).symm
      · have summary : "SUMMARY_CARD" = "FACT_CARD" := type
        exact absurd summary (by decide)
  · exact ⟨_, List.mem_map_of_mem listed, own⟩
  · intro filled filledListed
    obtain ⟨other, -, rfl⟩ := List.mem_map.mp filledListed
    change card.cardId ∈ (sectionCards inputs findings other).map
      Card.cardId ↔ other.sectionId = finding.sectionId
    rw [map_cardId_sectionCards, cardId, List.mem_append]
    constructor
    · rintro (fact | summary)
      · obtain ⟨findingId, otherShown, equal⟩ := List.mem_map.mp fact
        obtain rfl := cardId_injective equal
        exact same _ otherShown
      · split_ifs at summary
        · exact absurd (List.mem_singleton.mp summary) (not_summary _)
        · cases summary
    · intro otherOwn
      refine .inl (List.mem_map.mpr ⟨finding.findingId, ?_, rfl⟩)
      rw [otherOwn, ← own]
      exact shown

end Distinct

/-! ## Permutations of the selections -/

theorem sortKey_injOn {findings : List PayloadFinding}
    (distinct : (findings.map PayloadFinding.findingId).Nodup) :
    ∀ left ∈ findings, ∀ right ∈ findings, left.sortKey = right.sortKey → left = right := by
  intro left leftPresent right rightPresent same
  apply List.inj_on_of_nodup_map distinct leftPresent rightPresent
  exact congrArg (fun key => (ofLex (ofLex key).2).2) same

/-- What a build writes does not depend on the order of its findings. -/
theorem assemble_perm {builder : CanonicalPayloadBuilder} {inputs : CanonicalPayloadInputs}
    {findings others : List PayloadFinding} {glossary : List GlossaryEntry}
    {manifest : ReportDependencyManifest} (permuted : findings.Perm others)
    (distinct : (findings.map PayloadFinding.findingId).Nodup) :
    builder.assemble inputs findings glossary manifest =
      builder.assemble inputs others glossary manifest := by
  have parts : sectionOf inputs findings = sectionOf inputs others := by
    funext entry
    exact sectionOf_congr (factCards_of_perm permuted distinct _) rfl rfl
  have cards : sectionCards inputs findings = sectionCards inputs others :=
    congrArg (fun part => Prod.snd ∘ part) parts
  have sorted := sortedBy_eq_of_perm permuted (sortKey_injOn distinct)
  unfold CanonicalPayloadBuilder.assemble payloadObject filledSections filledCards
  rw [parts, cards, sorted]

/-! ## The structure of a build -/

section Structure

variable {builder : CanonicalPayloadBuilder}
  {inputs : CanonicalPayloadInputs} {selections : List FindingSelection}
  {wordings : WordingByFinding} {glossary : List GlossaryEntry}
  {manifest : ReportDependencyManifest} {payload : List (String × Json)}
  {findings : List PayloadFinding}

theorem payloadFinding_ids {labels : FriendlyLabelRegistry} {selection : FindingSelection}
    {finding : PayloadFinding}
    (filled : payloadFinding labels inputs wordings selection = .ok finding) :
    finding.findingId = selection.findingId ∧ finding.sectionId = selection.sectionId := by
  obtain ⟨_, -, filled⟩ := bind_eq_ok.mp filled
  obtain ⟨_, -, filled⟩ := bind_eq_ok.mp filled
  rw [← pure_eq_ok.mp filled]
  exact ⟨rfl, rfl⟩

/-- What the builder writes for an accepted list of findings. -/
theorem crossReferenced_of_validate
    (valid : builder.schema.validate (.obj (builder.assemble inputs findings
      glossary manifest)) = .ok ()) :
    CrossReferenced findings (filledSections inputs findings
        (builder.sections.forVariant inputs.reportVariant))
      (filledCards inputs findings (builder.sections.forVariant inputs.reportVariant)) := by
  obtain ⟨_, -, valid⟩ := bind_eq_ok.mp valid
  split at valid
  · cases valid
  · exact validateCrossReferences_iff.mp valid

theorem structured_of_crossReferenced
    (filled : selections.mapM (payloadFinding builder.labels inputs wordings) = .ok findings)
    (referenced : CrossReferenced findings (filledSections inputs findings
        (builder.sections.forVariant inputs.reportVariant))
      (filledCards inputs findings (builder.sections.forVariant inputs.reportVariant))) :
    Structured builder inputs.reportVariant selections
      (filledSections inputs findings (builder.sections.forVariant inputs.reportVariant))
      (filledCards inputs findings (builder.sections.forVariant inputs.reportVariant)) := by
  refine ⟨?_, ?_, ?_, ?_, ?_⟩
  · intro selection selected
    obtain ⟨finding, present, made⟩ := exists_ok_of_mapM filled selected
    obtain ⟨sameId, sameSection⟩ := payloadFinding_ids made
    rw [← sameId, ← sameSection]
    exact exists_shownOnce referenced present
  · rw [cardIds_filledSections]
    exact referenced.distinctCards
  · intro entry listed cardId named
    exact List.mem_map.mp (referenced.ofSection entry listed cardId named)
  · unfold filledSections
    rw [List.map_map]
    rfl
  · exact List.pairwise_map.mp referenced.ascending

end Structure

/-- In every payload that is built, each selected finding is on exactly one
card, which exactly its own section lists; sections list each of their cards
once and are those of the variant in ascending order; and the payload does not
depend on the order of the selections. -/
theorem payload_structured {builder : CanonicalPayloadBuilder} {inputs : CanonicalPayloadInputs}
    {selections : List FindingSelection} {wordings : WordingByFinding}
    {glossary : List GlossaryEntry} {manifest : ReportDependencyManifest}
    {payload : List (String × Json)}
    (built : builder.build inputs selections wordings glossary manifest =
      .ok payload) :
    (∃ sections cards, payload.lookup "sections" =
          some (.arr (sections.map PayloadSection.json)) ∧
        payload.lookup "cards" = some (.arr (cards.map Card.json)) ∧
        Structured builder inputs.reportVariant selections sections cards) ∧
      ∀ others, selections.Perm others →
        builder.build inputs others wordings glossary manifest =
          .ok payload := by
  obtain ⟨summary, disclaimers, titled, findings, filled, valid, rfl⟩ :=
    build_eq_ok.mp built
  have referenced := crossReferenced_of_validate valid
  constructor
  · exact ⟨_, _, rfl, rfl, structured_of_crossReferenced filled referenced⟩
  · intro others permuted
    obtain ⟨otherFindings, otherFilled, same⟩ :=
      exists_mapM_of_perm permuted filled
    have written := @assemble_perm builder inputs _ _ glossary manifest same
      (distinct_of_crossReferenced referenced)
    rw [written] at valid ⊢
    exact build_eq_ok.mpr ⟨summary, disclaimers, titled, otherFindings,
      otherFilled, valid, rfl⟩

/-- The selection of a pool. -/
def samplePool : FindingSelection where
  finding := sampleFinding "F1" "POOL_STATUS" .all
  sectionId := "home-dna"
  classification := .publicData

/-- The content of the pool in a public report. -/
def samplePoolFinding : PayloadFinding where
  findingId := "F1"
  findingType := "POOL_STATUS"
  label := "Pool"
  displayText := "Pool"
  sectionId := "home-dna"
  sourceSnapshotId := (bareInputs "A disclaimer.").snapshotId.str
  semanticFingerprint := String.ofList (List.replicate 64 '0')

theorem crossReferenced_samplePool :
    CrossReferenced [samplePoolFinding]
      (filledSections (bareInputs "A disclaimer.") [samplePoolFinding]
        (reportSections.forVariant .pub))
      (filledCards (bareInputs "A disclaimer.") [samplePoolFinding]
        (reportSections.forVariant .pub)) where
  distinctSections := by decide
  ascending := by decide
  distinctCards := by decide
  ofFinding := by decide
  ofCard := by decide
  ofSection := by decide

/-- The payload of the public report of the pool. -/
def samplePoolPayload : List (String × Json) :=
  sampleConfig.payloadBuilder.assemble (bareInputs "A disclaimer.") [samplePoolFinding] [] ⟨[], ""⟩

theorem build_samplePool :
    sampleConfig.payloadBuilder.build (bareInputs "A disclaimer.")
      [samplePool] [("F1", ⟨"Pool", "1"⟩)] [] ⟨[], ""⟩ = .ok samplePoolPayload := by
  have titled : ∀ entry ∈ sampleConfig.payloadBuilder.sections.forVariant
      (bareInputs "A disclaimer.").reportVariant,
      (((bareInputs "A disclaimer.").sectionTitles entry.sectionId).filter
        fun title => title ≠ "").isSome = true := by
    decide
  have valid : sampleConfig.payloadBuilder.schema.validate
      (.obj samplePoolPayload) = .ok () :=
    (validate_payloadObject_iff (plainContent_bareInputs _)).mpr ⟨rfl, crossReferenced_samplePool⟩
  exact build_eq_ok.mpr ⟨List.cons_ne_nil _ _, List.cons_ne_nil _ _, titled,
    [samplePoolFinding], rfl, valid, rfl⟩

theorem payload_structured_sample :
    (∃ sections cards, samplePoolPayload.lookup "sections" =
          some (.arr (sections.map PayloadSection.json)) ∧
        samplePoolPayload.lookup "cards" = some (.arr (cards.map Card.json)) ∧
        Structured sampleConfig.payloadBuilder .pub [samplePool] sections
          cards) ∧
      ∀ others, [samplePool].Perm others →
        sampleConfig.payloadBuilder.build (bareInputs "A disclaimer.")
          others [("F1", ⟨"Pool", "1"⟩)] [] ⟨[], ""⟩ =
            .ok samplePoolPayload :=
  payload_structured build_samplePool

end SanTanHeights.Report
