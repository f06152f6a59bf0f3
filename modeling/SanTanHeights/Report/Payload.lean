import SanTanHeights.Report.Manifest
import SanTanHeights.Report.Schema

/-!
# Canonical payloads

`CanonicalPayloadBuilder.build` assembles the content of a report from the
selected findings, their wording and labels, the glossary and the governed
inputs.
-/

namespace SanTanHeights.Report

open Foundation Foundation.Json Foundation.Sorting Foundation.Outcome Shared

/-! ## Inputs -/

/-- The governed inputs of a payload.  Times are the texts that `isoformat()`
returns, and `propertyIdentity` is a dictionary. -/
structure CanonicalPayloadInputs where
  propertyId : Uuid
  snapshotId : Uuid
  reportVariant : Variant
  reportSchemaVersion : String
  contentContractVersion : String
  variantPolicyVersion : String
  verifiedThrough : String
  propertyIdentity : List (String × Json)
  summaryItems : List String
  sectionTitles : String → Option String
  disclaimers : List String
  brandProfileId : String
  brandVersion : String
  marketDataThrough : Option String
  builderDataThrough : Option String
  mediaSlots : List Json
  diagramSlots : List Json
  evidenceDisclosures : List Json

/-- `_iso` of a time. -/
def iso (time : String) : String :=
  Text.replace "+00:00" "Z" time

/-! ## Findings and cards -/

/-- An item of `findings`. -/
structure PayloadFinding where
  findingId : String
  findingType : String
  label : String
  displayText : String
  sectionId : String
  sourceSnapshotId : String
  semanticFingerprint : String
  deriving DecidableEq, Repr

namespace PayloadFinding

def json (finding : PayloadFinding) : Json :=
  .obj [("finding_id", .str finding.findingId), ("finding_type", .str finding.findingType),
      ("label", .str finding.label), ("display_text", .str finding.displayText),
      ("section_id", .str finding.sectionId), ("status_label", .null),
      ("confidence_label", .null), ("limitation", .null),
      ("source_snapshot_id", .str finding.sourceSnapshotId),
      ("semantic_fingerprint", .str finding.semanticFingerprint)]

/-- The order of `findings`. -/
def sortKey (finding : PayloadFinding) : String ×ₗ String ×ₗ String :=
  toLex (finding.sectionId, toLex (finding.findingType, finding.findingId))

end PayloadFinding

/-- An item of `cards`. -/
structure Card where
  cardId : String
  cardType : String
  sectionId : String
  title : String
  body : String
  findingIds : List String
  deriving DecidableEq, Repr

def Card.json (card : Card) : Json :=
  .obj [("card_id", .str card.cardId), ("card_type", .str card.cardType),
      ("section_id", .str card.sectionId), ("title", .str card.title),
      ("body", .str card.body), ("finding_ids", .arr (card.findingIds.map Json.str)),
      ("status_label", .null)]

/-- An item of `sections`. -/
structure PayloadSection where
  sectionId : String
  title : String
  order : Int
  cardIds : List String
  deriving DecidableEq, Repr

def PayloadSection.json (entry : PayloadSection) : Json :=
  .obj [("section_id", .str entry.sectionId), ("title", .str entry.title),
      ("order", .int entry.order), ("card_ids", .arr (entry.cardIds.map Json.str)),
      ("summary", .null)]

/-- The loop body that fills `findings`. -/
def payloadFinding (labels : FriendlyLabelRegistry) (inputs : CanonicalPayloadInputs)
    (wordings : WordingByFinding) (selection : FindingSelection) :
    Except String PayloadFinding := do
  let wording ← orRaise (wordings.lookup selection.findingId)
    ("missing resolved wording: " ++ selection.findingId)
  let label ← labels.resolve selection.findingType inputs.reportVariant
  return {
    findingId := selection.findingId
    findingType := selection.findingType
    label := label
    displayText := wording.text
    sectionId := selection.sectionId
    sourceSnapshotId := inputs.snapshotId.str
    semanticFingerprint := selection.semanticFingerprint }

/-- `sorted(finding_ids_by_section.get(section_id, []))`. -/
def sectionFindingIds (findings : List PayloadFinding) (sectionId : String) : List String :=
  sortedBy id ((findings.filter fun finding =>
    finding.sectionId = sectionId).map PayloadFinding.findingId)

/-- The card of the first finding with an identifier. -/
def findingCard (findings : List PayloadFinding) (sectionId findingId : String) : Option Card :=
  (findings.find? fun finding => finding.findingId = findingId).map
    fun finding =>
      { cardId := "finding:" ++ findingId
        cardType := "FACT_CARD"
        sectionId := sectionId
        title := finding.label
        body := finding.displayText
        findingIds := [findingId] }

/-- The card of the summary section. -/
def summaryCard (inputs : CanonicalPayloadInputs) : Card where
  cardId := "summary:primary"
  cardType := "SUMMARY_CARD"
  sectionId := "summary"
  title := (inputs.sectionTitles "summary").getD "Summary"
  body := String.intercalate "\n" inputs.summaryItems
  findingIds := []

/-- The cards of a section. -/
def sectionCards (inputs : CanonicalPayloadInputs) (findings : List PayloadFinding)
    (entry : ReportSection) : List Card :=
  (sectionFindingIds findings entry.sectionId).filterMap
      (findingCard findings entry.sectionId) ++
    if entry.sectionId = "summary" then [summaryCard inputs] else []

/-- The loop body that fills `sections` and `cards`. -/
def payloadSection (inputs : CanonicalPayloadInputs) (findings : List PayloadFinding)
    (entry : ReportSection) : Except String (PayloadSection × List Card) := do
  let cards := sectionCards inputs findings entry
  let title ← orRaise
    ((inputs.sectionTitles entry.sectionId).filter fun title => title ≠ "")
    ("missing approved section title: " ++ entry.sectionId)
  return (
    { sectionId := entry.sectionId
      title := title
      order := entry.order
      cardIds := cards.map Card.cardId }, cards)

/-! ## The payload -/

/-- `prop.setdefault(key, value)`. -/
def setDefault (key : String) (value : Json) (members : List (String × Json)) :
    List (String × Json) :=
  if key ∈ members.map Prod.fst then members else members ++ [(key, value)]

/-- `prop`. -/
def identityObject (inputs : CanonicalPayloadInputs) : List (String × Json) :=
  let named := setItem "property_id" (.str inputs.propertyId.str)
    inputs.propertyIdentity
  let located := setDefault "community" (.str "San Tan Heights") named
  ["phase", "builder", "floor_plan"].foldl
    (fun members optional => setDefault optional .null members) located

def GlossaryEntry.json (entry : GlossaryEntry) : Json :=
  .obj [("term_id", .str entry.termId), ("label", .str entry.label),
      ("definition", .str entry.definition)]

/-- The dictionary `payload["metadata"]`. -/
def metadataObject (inputs : CanonicalPayloadInputs) : List (String × Json) :=
  [("report_schema_version", .str inputs.reportSchemaVersion),
    ("content_contract_version", .str inputs.contentContractVersion),
    ("variant_policy_version", .str inputs.variantPolicyVersion),
    ("report_variant", .str inputs.reportVariant.code),
    ("property_id", .str inputs.propertyId.str),
    ("snapshot_id", .str inputs.snapshotId.str),
    ("verified_through", .str (iso inputs.verifiedThrough)),
    ("market_data_through", .ofOptional (inputs.marketDataThrough.map iso)),
    ("builder_data_through", .ofOptional (inputs.builderDataThrough.map iso))]

/-- The dictionary `payload`. -/
def payloadObject (inputs : CanonicalPayloadInputs) (findings : List PayloadFinding)
    (sections : List PayloadSection) (cards : List Card)
    (glossary : List GlossaryEntry) (manifestHash : String) :
    List (String × Json) :=
  [("metadata", .obj (metadataObject inputs)),
    ("property_identity", .obj (identityObject inputs)),
    ("summary", .arr (inputs.summaryItems.map Json.str)),
    ("sections", .arr (sections.map PayloadSection.json)),
    ("findings", .arr ((sortedBy PayloadFinding.sortKey findings).map PayloadFinding.json)),
    ("cards", .arr (cards.map Card.json)), ("media_slots", .arr inputs.mediaSlots),
    ("diagram_slots", .arr inputs.diagramSlots),
    ("glossary", .arr (glossary.map GlossaryEntry.json)),
    ("evidence_disclosures", .arr inputs.evidenceDisclosures),
    ("disclaimers", .arr (inputs.disclaimers.map Json.str)), ("branding_reference", .obj
      [("brand_profile_id", .str inputs.brandProfileId),
        ("brand_version", .str inputs.brandVersion)]),
    ("lineage", .obj [("snapshot_id", .str inputs.snapshotId.str),
        ("dependency_manifest_hash", .str manifestHash)])]

structure CanonicalPayloadBuilder where
  sections : ReportSectionRegistry
  labels : FriendlyLabelRegistry
  schema : CanonicalReportSchema

/-- `CanonicalPayloadBuilder.build`. -/
def CanonicalPayloadBuilder.build
    (builder : CanonicalPayloadBuilder) (inputs : CanonicalPayloadInputs)
    (selections : List FindingSelection) (wordings : WordingByFinding)
    (glossary : List GlossaryEntry) (manifest : ReportDependencyManifest) :
    Except String (List (String × Json)) := do
  require (inputs.summaryItems ≠ [])
    "summary_items must be supplied as governed content"
  require (inputs.disclaimers ≠ [])
    "at least one approved disclaimer is required"
  let findings ← selections.mapM (payloadFinding builder.labels inputs wordings)
  let parts ← (builder.sections.forVariant inputs.reportVariant).mapM
    (payloadSection inputs findings)
  let payload := payloadObject inputs findings (parts.map Prod.fst)
    (parts.map Prod.snd).flatten glossary manifest.manifestHash
  builder.schema.validate (.obj payload)
  return payload

end SanTanHeights.Report
