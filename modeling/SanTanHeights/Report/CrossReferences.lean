import SanTanHeights.Report.Payload

/-!
# What the schema checks of a payload

The builder writes its payload from findings, sections and cards.  On such a
payload the checks of the schema are conditions on the three lists, and on the
governed content that is copied into the payload.
-/

namespace SanTanHeights.Report

open Foundation Foundation.Json Foundation.Sorting Foundation.Outcome

/-! ## Presentation keys -/

/-- The letters of the presentation keys. -/
def presentationLetters : List (List Char) :=
  [['c', 's', 's'], ['s', 't', 'y', 'l', 'e'],
    ['s', 't', 'y', 'l', 'e', 's'], ['x'], ['y'], ['w', 'i', 'd', 't', 'h'],
    ['h', 'e', 'i', 'g', 'h', 't'], ['p', 'i', 'x', 'e', 'l', 's'],
    ['p', 'a', 'g', 'e', '_', 'x'], ['p', 'a', 'g', 'e', '_', 'y']]

theorem forbiddenPresentationKeys_eq :
    forbiddenPresentationKeys = presentationLetters.map String.ofList := rfl

/-- Whether a key is for presentation is read off its letters. -/
theorem isPresentationKey_ofList {letters : List Char}
    (plain : (letters.map Char.toLower ∈ presentationLetters : Bool) = false) :
    isPresentationKey (String.ofList letters) = false := by
  unfold isPresentationKey
  rw [String.toList_ofList, forbiddenPresentationKeys_eq, decide_eq_false_iff_not, List.mem_map]
  rintro ⟨other, listed, same⟩
  rw [String.ofList_inj] at same
  exact of_decide_eq_false plain (same ▸ listed)

/-- A value without presentation keys, wherever it stands. -/
def Plain (value : Json) : Prop :=
  ∀ path, rejectPresentationKeys path value = .ok ()

@[simp] theorem plain_null : Plain .null := fun _ => rfl

@[simp] theorem plain_str (text : String) : Plain (.str text) := fun _ => rfl

@[simp] theorem plain_int (number : Int) : Plain (.int number) := fun _ => rfl

theorem plain_ofOptional (text : Option String) : Plain (.ofOptional text) := by
  cases text with
  | none => exact plain_null
  | some text => exact plain_str text

variable {members : List (String × Json)}

theorem plain_obj
    (each : ∀ member ∈ members, isPresentationKey member.1 = false ∧ Plain member.2) :
    Plain (.obj members) := by
  intro path
  change rejectInMembers path members = .ok ()
  induction members with
  | nil => rfl
  | cons member members ih =>
      rw [List.forall_mem_cons] at each
      unfold rejectInMembers
      rw [require_bind_eq_ok]
      refine ⟨each.1.1, bind_eq_ok.mpr ⟨(), each.1.2 _, ?_⟩⟩
      exact ih each.2

theorem plain_arr {items : List Json} (each : ∀ item ∈ items, Plain item) :
    Plain (.arr items) := by
  intro path
  change rejectInItems path 0 items = .ok ()
  generalize 0 = index
  induction items generalizing index with
  | nil => rfl
  | cons item items ih =>
      rw [List.forall_mem_cons] at each
      unfold rejectInItems
      refine bind_eq_ok.mpr ⟨(), each.1 _, ?_⟩
      exact ih each.2 _

theorem plain_map {α : Type} {write : α → Json} (each : ∀ item, Plain (write item))
    (items : List α) : Plain (.arr (items.map write)) := by
  apply plain_arr
  intro value written
  obtain ⟨item, -, rfl⟩ := List.mem_map.mp written
  exact each item

theorem PayloadFinding.plain_json (finding : PayloadFinding) : Plain finding.json := by
  apply plain_obj
  simp only [List.forall_mem_cons, plain_str, plain_null, and_true,
    List.not_mem_nil, false_implies, implies_true]
  refine ⟨?_, ?_, ?_, ?_, ?_, ?_, ?_, ?_, ?_, ?_⟩ <;> exact isPresentationKey_ofList rfl

theorem Card.plain_json (card : Card) : Plain card.json := by
  apply plain_obj
  simp only [List.forall_mem_cons, plain_str, plain_null, plain_map,
    and_true, List.not_mem_nil, false_implies, implies_true]
  refine ⟨?_, ?_, ?_, ?_, ?_, ?_, ?_⟩ <;> exact isPresentationKey_ofList rfl

theorem PayloadSection.plain_json (entry : PayloadSection) : Plain entry.json := by
  apply plain_obj
  simp only [List.forall_mem_cons, plain_str, plain_null, plain_int,
    plain_map, and_true, List.not_mem_nil, false_implies, implies_true]
  refine ⟨?_, ?_, ?_, ?_, ?_⟩ <;> exact isPresentationKey_ofList rfl

theorem GlossaryEntry.plain_json (entry : GlossaryEntry) : Plain entry.json := by
  apply plain_obj
  simp only [List.forall_mem_cons, plain_str, and_true, List.not_mem_nil,
    false_implies, implies_true]
  refine ⟨?_, ?_, ?_⟩ <;> exact isPresentationKey_ofList rfl

/-- Governed content that is copied into a payload. -/
structure CanonicalPayloadInputs.PlainContent (inputs : CanonicalPayloadInputs) : Prop where
  propertyIdentity : Plain (.obj (identityObject inputs))
  mediaSlots : Plain (.arr inputs.mediaSlots)
  diagramSlots : Plain (.arr inputs.diagramSlots)
  evidenceDisclosures : Plain (.arr inputs.evidenceDisclosures)

theorem plain_metadataObject (inputs : CanonicalPayloadInputs) :
    Plain (.obj (metadataObject inputs)) := by
  apply plain_obj
  simp only [List.forall_mem_cons, metadataObject, plain_str,
    plain_ofOptional, and_true, List.not_mem_nil, false_implies, implies_true]
  refine ⟨?_, ?_, ?_, ?_, ?_, ?_, ?_, ?_, ?_⟩ <;> exact isPresentationKey_ofList rfl

section Payload

variable {inputs : CanonicalPayloadInputs} {findings : List PayloadFinding}
  {sections : List PayloadSection} {cards : List Card}
  {glossary : List GlossaryEntry} {manifestHash : String}

/-- A payload has no presentation keys of its own. -/
theorem plain_payloadObject (plain : inputs.PlainContent) :
    Plain (.obj (payloadObject inputs findings sections cards glossary manifestHash)) := by
  have branding : Plain (.obj [("brand_profile_id", .str inputs.brandProfileId),
        ("brand_version", .str inputs.brandVersion)]) := by
    apply plain_obj
    simp only [List.forall_mem_cons, plain_str, and_true, List.not_mem_nil,
      false_implies, implies_true]
    exact ⟨isPresentationKey_ofList rfl, isPresentationKey_ofList rfl⟩
  have lineage : Plain (.obj [("snapshot_id", .str inputs.snapshotId.str),
        ("dependency_manifest_hash", .str manifestHash)]) := by
    apply plain_obj
    simp only [List.forall_mem_cons, plain_str, and_true, List.not_mem_nil,
      false_implies, implies_true]
    exact ⟨isPresentationKey_ofList rfl, isPresentationKey_ofList rfl⟩
  apply plain_obj
  simp only [payloadObject, List.forall_mem_cons, branding, lineage,
    plain_metadataObject, plain.propertyIdentity, plain.mediaSlots,
    plain.diagramSlots, plain.evidenceDisclosures, plain_map, plain_str,
    PayloadFinding.plain_json, Card.plain_json, PayloadSection.plain_json,
    GlossaryEntry.plain_json, and_true, List.not_mem_nil, false_implies, implies_true]
  refine ⟨?_, ?_, ?_, ?_, ?_, ?_, ?_, ?_, ?_, ?_, ?_, ?_, ?_⟩ <;> exact isPresentationKey_ofList rfl

/-! ## Cross references -/

theorem lookup_setItem_self (key : String) (value : Json) (members : List (String × Json)) :
    (setItem key value members).lookup key = some value := by
  induction members with
  | nil => exact List.lookup_cons_self
  | cons member members ih =>
      unfold setItem
      split_ifs with same
      · exact List.lookup_cons_self
      · rw [List.lookup_cons, beq_eq_false_iff_ne.mpr (Ne.symm same)]
        exact ih

theorem lookup_setDefault {key other : String} {value found : Json}
    (present : members.lookup key = some found) :
    (setDefault other value members).lookup key = some found := by
  unfold setDefault
  split_ifs
  · exact present
  · rw [List.lookup_append, present, Option.some_or]

theorem lookup_identityObject (inputs : CanonicalPayloadInputs) :
    (identityObject inputs).lookup "property_id" = some (.str inputs.propertyId.str) := by
  unfold identityObject
  simp only [List.foldl_cons, List.foldl_nil]
  apply lookup_setDefault
  apply lookup_setDefault
  apply lookup_setDefault
  apply lookup_setDefault
  exact lookup_setItem_self _ _ _

/-- Values that are written item by item are read item by item. -/
theorem mapM_read {α β : Type} {write : α → Json} {read : Json → Except String β}
    {value : α → β} (reads : ∀ item, read (write item) = .ok (value item))
    (items : List α) : (items.map write).mapM read = .ok (items.map value) := by
  rw [mapM_eq_ok, List.forall₂_map_left_iff, List.forall₂_map_right_iff, List.forall₂_same]
  exact fun item _ => reads item

/-- What the schema checks of the references between findings, sections and
cards. -/
structure CrossReferenced (findings : List PayloadFinding) (sections : List PayloadSection)
    (cards : List Card) : Prop where
  distinctSections : (sections.map PayloadSection.sectionId).Nodup
  ascending : (sections.map PayloadSection.order).Pairwise (· < ·)
  distinctCards : (cards.map Card.cardId).Nodup
  ofFinding : ∀ finding ∈ findings, finding.sectionId ∈ sections.map PayloadSection.sectionId
  ofCard : ∀ card ∈ cards,
    card.sectionId ∈ sections.map PayloadSection.sectionId ∧
      ∀ findingId ∈ card.findingIds, findingId ∈ findings.map PayloadFinding.findingId
  ofSection : ∀ entry ∈ sections, ∀ cardId ∈ entry.cardIds, cardId ∈ cards.map Card.cardId

theorem textItems_written {key : String} {texts : List String}
    (found : members.lookup key = some (.arr (texts.map Json.str))) :
    Json.textItems key (.obj members) = .ok texts := by
  refine bind_eq_ok.mpr ⟨_, orRaise_eq_ok.mpr found, ?_⟩
  refine bind_eq_ok.mpr ⟨_, rfl, ?_⟩
  have read := mapM_read (fun text : String =>
    (rfl : Json.text (.str text) = .ok text)) texts
  rwa [List.map_id'] at read

theorem requireKnown_eq_ok {known references : List String} {message : String} :
    requireKnown known message references = .ok () ↔ ∀ reference ∈ references, reference ∈ known :=
  require_eq_ok

theorem requireSectioned_iff {sectionIds : List String} {finding : PayloadFinding} :
    (do
      let sectionId ← finding.json.textItem "section_id"
      requireKnown sectionIds
        ("finding references unknown section: " ++ sectionId) [sectionId]) =
        .ok () ↔ finding.sectionId ∈ sectionIds := by
  rw [ok_bind (show finding.json.textItem "section_id" =
    .ok finding.sectionId from rfl), requireKnown_eq_ok, List.forall_mem_singleton]

theorem requireCardKnown_iff {sectionIds findingIds : List String} {card : Card} :
    (do
      let sectionId ← card.json.textItem "section_id"
      requireKnown sectionIds ("card references unknown section: " ++ sectionId) [sectionId]
      let references ← card.json.textItems "finding_ids"
      requireKnown findingIds "card references unknown findings" references) = .ok () ↔
      card.sectionId ∈ sectionIds ∧ ∀ findingId ∈ card.findingIds, findingId ∈ findingIds := by
  have references : card.json.textItems "finding_ids" =
      .ok card.findingIds := by
    apply textItems_written
    rfl
  rw [ok_bind (show card.json.textItem "section_id" = .ok card.sectionId from rfl), bind_eq_ok]
  simp only [ok_bind references, requireKnown_eq_ok]
  constructor
  · rintro ⟨_, sectioned, known⟩
    rw [requireKnown_eq_ok, List.forall_mem_singleton] at sectioned
    exact ⟨sectioned, known⟩
  · rintro ⟨sectioned, known⟩
    refine ⟨(), ?_, known⟩
    rwa [requireKnown_eq_ok, List.forall_mem_singleton]

theorem requireCardsKnown_iff {cardIds : List String} {entry : PayloadSection} :
    (do
      let references ← entry.json.textItems "card_ids"
      requireKnown cardIds "section references unknown cards" references) =
        .ok () ↔ ∀ cardId ∈ entry.cardIds, cardId ∈ cardIds := by
  have references : entry.json.textItems "card_ids" = .ok entry.cardIds := by
    apply textItems_written
    rfl
  rw [ok_bind references, requireKnown_eq_ok]

/-- The references of a payload are checked on its three lists. -/
theorem validateCrossReferences_iff :
    validateCrossReferences (.obj (payloadObject inputs findings sections
        cards glossary manifestHash)) = .ok () ↔
      CrossReferenced findings sections cards := by
  generalize sortedEq : sortedBy PayloadFinding.sortKey findings = sorted
  have same : ∀ finding, finding ∈ sorted ↔ finding ∈ findings := by
    intro finding
    rw [← sortedEq, mem_sortedBy]
  generalize written : Json.obj (payloadObject inputs findings sections cards
    glossary manifestHash) = payload
  have readIdentity : payload.item "property_identity" =
      .ok (.obj (identityObject inputs)) := by
    rw [← written]
    rfl
  have readMetadata : payload.item "metadata" =
      .ok (.obj (metadataObject inputs)) := by
    rw [← written]
    rfl
  have readLineage : payload.item "lineage" = .ok (.obj
      [("snapshot_id", .str inputs.snapshotId.str),
        ("dependency_manifest_hash", .str manifestHash)]) := by
    rw [← written]
    rfl
  have identityProperty : Json.textItem "property_id"
      (.obj (identityObject inputs)) = .ok inputs.propertyId.str :=
    bind_eq_ok.mpr ⟨_, orRaise_eq_ok.mpr (lookup_identityObject inputs), rfl⟩
  have metadataProperty : Json.textItem "property_id"
      (.obj (metadataObject inputs)) = .ok inputs.propertyId.str := rfl
  have lineageSnapshot : Json.textItem "snapshot_id" (.obj
      [("snapshot_id", .str inputs.snapshotId.str),
        ("dependency_manifest_hash", .str manifestHash)]) =
      .ok inputs.snapshotId.str := rfl
  have metadataSnapshot : Json.textItem "snapshot_id"
      (.obj (metadataObject inputs)) = .ok inputs.snapshotId.str := rfl
  have readSections : (payload.item "sections" >>= Json.items) =
      .ok (sections.map PayloadSection.json) := by
    rw [← written]
    rfl
  have readFindings : (payload.item "findings" >>= Json.items) =
      .ok (sorted.map PayloadFinding.json) := by
    rw [← written, ← sortedEq]
    rfl
  have readCards : (payload.item "cards" >>= Json.items) =
      .ok (cards.map Card.json) := by
    rw [← written]
    rfl
  have sectionIds : (sections.map PayloadSection.json).mapM
      (Json.textItem "section_id") = .ok (sections.map PayloadSection.sectionId) := by
    apply mapM_read
    exact fun _ => rfl
  have orders : (sections.map PayloadSection.json).mapM
      (fun entry => entry.item "order" >>= Json.integer) =
        .ok (sections.map PayloadSection.order) := by
    apply mapM_read
    exact fun _ => rfl
  have findingIds : (sorted.map PayloadFinding.json).mapM
      (Json.textItem "finding_id") = .ok (sorted.map PayloadFinding.findingId) := by
    apply mapM_read
    exact fun _ => rfl
  have cardIds : (cards.map Card.json).mapM (Json.textItem "card_id") =
      .ok (cards.map Card.cardId) := by
    apply mapM_read
    exact fun _ => rfl
  unfold validateCrossReferences
  rw [ok_bind readIdentity, ok_bind readMetadata, ok_bind readLineage,
    ok_bind identityProperty, ok_bind metadataProperty, require_bind_eq_ok,
    ok_bind lineageSnapshot, ok_bind metadataSnapshot, require_bind_eq_ok,
    ok_bind readSections, ok_bind sectionIds, require_bind_eq_ok,
    ok_bind orders, require_bind_eq_ok, ok_bind readFindings,
    ok_bind findingIds, ok_bind readCards, ok_bind cardIds, require_bind_eq_ok, bind_eq_ok]
  constructor
  · rintro ⟨-, -, distinctSections, ascending, distinctCards, _, ofFinding, rest⟩
    obtain ⟨_, ofCard, ofSection⟩ := bind_eq_ok.mp rest
    rw [forM_eq_ok, List.forall_mem_map] at ofFinding ofCard ofSection
    refine ⟨distinctSections, ascending, distinctCards, ?_, ?_, ?_⟩
    · intro finding present
      exact requireSectioned_iff.mp (ofFinding finding ((same finding).mpr present))
    · intro card present
      obtain ⟨sectioned, known⟩ := requireCardKnown_iff.mp (ofCard card present)
      refine ⟨sectioned, fun findingId shown => ?_⟩
      obtain ⟨finding, listed, own⟩ := List.mem_map.mp (known findingId shown)
      exact List.mem_map.mpr ⟨finding, (same finding).mp listed, own⟩
    · intro entry present
      exact requireCardsKnown_iff.mp (ofSection entry present)
  · rintro ⟨distinctSections, ascending, distinctCards, ofFinding, ofCard, ofSection⟩
    refine ⟨rfl, rfl, distinctSections, ascending, distinctCards, (), ?_,
      bind_eq_ok.mpr ⟨(), ?_, ?_⟩⟩
    · rw [forM_eq_ok, List.forall_mem_map]
      intro finding present
      exact requireSectioned_iff.mpr (ofFinding finding ((same finding).mp present))
    · rw [forM_eq_ok, List.forall_mem_map]
      intro card present
      obtain ⟨sectioned, known⟩ := ofCard card present
      refine requireCardKnown_iff.mpr ⟨sectioned, fun findingId shown => ?_⟩
      obtain ⟨finding, listed, own⟩ := List.mem_map.mp (known findingId shown)
      exact List.mem_map.mpr ⟨finding, (same finding).mpr listed, own⟩
    · rw [forM_eq_ok, List.forall_mem_map]
      intro entry present
      exact requireCardsKnown_iff.mpr (ofSection entry present)

/-- When the schema accepts a payload. -/
theorem validate_payloadObject_iff
    {schema : CanonicalReportSchema} (plain : inputs.PlainContent) :
    schema.validate (.obj (payloadObject inputs findings sections cards
        glossary manifestHash)) = .ok () ↔
      schema.firstError (.obj (payloadObject inputs findings sections cards
          glossary manifestHash)) = none ∧
        CrossReferenced findings sections cards := by
  unfold CanonicalReportSchema.validate
  rw [ok_bind (plain_payloadObject plain "<root>"), ← validateCrossReferences_iff]
  cases schema.firstError (.obj (payloadObject inputs findings sections cards
    glossary manifestHash)) with
  | none => exact ⟨fun valid => ⟨rfl, valid⟩, And.right⟩
  | some message => exact iff_of_false nofun nofun

end Payload

end SanTanHeights.Report
