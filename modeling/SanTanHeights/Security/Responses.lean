import SanTanHeights.Report.Diff
import SanTanHeights.Shared.Vocabulary

/-!
# Audience responses

`NegativeFieldProtector` and `AudienceResponseProjector`.  A response copies
some parts of a payload, keeps listed fields of others, and is checked key by
key at every depth before it is returned; what it does not copy cannot change
it.
-/

namespace SanTanHeights.Security

open Foundation Foundation.Json Foundation.Outcome Shared

/-! ## Forbidden fields -/

/-- `FORBIDDEN_BY_AUDIENCE`. -/
def forbiddenByAudience : Variant → List String
  | .pub =>
      ["snapshot_id", "lineage", "dependency_manifest_hash",
        "semantic_fingerprint", "source_snapshot_id", "confidence_label",
        "evidence_disclosures", "detail", "report_schema_version",
        "content_contract_version", "variant_policy_version",
        "market_data_through", "builder_data_through", "passport_id",
        "passport_version", "internal_notes", "qa_status", "production_status"]
  | .seller =>
      ["snapshot_id", "lineage", "dependency_manifest_hash",
        "semantic_fingerprint", "source_snapshot_id", "detail",
        "report_schema_version", "content_contract_version",
        "variant_policy_version", "passport_id", "passport_version",
        "internal_notes", "qa_status", "production_status"]
  | .agent =>
      ["internal_notes", "restricted_value", "system_secret", "auth_token"]

/-- `f"{path}.{key}" if path else key`. -/
def memberPath (path key : String) : String :=
  if path = "" then key else path ++ "." ++ key

mutual

/-- `walk`. -/
def walk (forbidden : List String) (path : String) : Json → List String
  | .obj members => walkMembers forbidden path members
  | .arr items => walkItems forbidden path 0 items
  | .null | .bool _ | .int _ | .dec _ | .str _ => []

def walkMembers (forbidden : List String) (path : String) :
    List (String × Json) → List String
  | [] => []
  | (key, child) :: members =>
      (if key ∈ forbidden then [memberPath path key] else []) ++
        walk forbidden (memberPath path key) child ++ walkMembers forbidden path members

def walkItems (forbidden : List String) (path : String) (index : Nat) :
    List Json → List String
  | [] => []
  | child :: items =>
      walk forbidden (path ++ "[" ++ toString index ++ "]") child ++
        walkItems forbidden path (index + 1) items

end

/-- `find_forbidden`. -/
def findForbidden (audience : Variant) (value : Json) : List String :=
  Sorting.sortedBy id (walk (forbiddenByAudience audience) "" value)

/-- `require_clean`. -/
def requireClean (audience : Variant) (value : Json) : Except String Unit :=
  let hits := findForbidden audience value
  require (hits = [])
    ("FORBIDDEN_RESPONSE_FIELDS:" ++ String.intercalate "," hits)

/-! ## Responses -/

/-- A dictionary with the keys of a JSON object. -/
abbrev Members := List (String × Json)

structure PublicReportResponse where
  propertyId : String
  reportVariant : String
  verifiedThrough : String
  propertyIdentity : Json
  summary : List Json
  sections : List Json
  cards : List Json
  findings : List Json
  mediaSlots : List Json
  diagramSlots : List Json
  glossary : List Json
  disclaimers : List Json
  brandingReference : Json

/-- `to_dict`. -/
def PublicReportResponse.toDict (dto : PublicReportResponse) : Json :=
  .obj [("property_id", .str dto.propertyId), ("report_variant", .str dto.reportVariant),
      ("verified_through", .str dto.verifiedThrough),
      ("property_identity", dto.propertyIdentity),
      ("summary", .arr dto.summary), ("sections", .arr dto.sections),
      ("cards", .arr dto.cards), ("findings", .arr dto.findings),
      ("media_slots", .arr dto.mediaSlots), ("diagram_slots", .arr dto.diagramSlots),
      ("glossary", .arr dto.glossary), ("disclaimers", .arr dto.disclaimers),
      ("branding_reference", dto.brandingReference)]

structure SellerReportResponse where
  propertyId : String
  reportVariant : String
  verifiedThrough : String
  marketDataThrough : Json
  builderDataThrough : Json
  propertyIdentity : Json
  summary : List Json
  sections : List Json
  cards : List Json
  findings : List Json
  mediaSlots : List Json
  diagramSlots : List Json
  glossary : List Json
  evidenceDisclosures : List Json
  disclaimers : List Json
  brandingReference : Json

/-- `to_dict`. -/
def SellerReportResponse.toDict (dto : SellerReportResponse) : Json :=
  .obj [("property_id", .str dto.propertyId), ("report_variant", .str dto.reportVariant),
      ("verified_through", .str dto.verifiedThrough),
      ("market_data_through", dto.marketDataThrough),
      ("builder_data_through", dto.builderDataThrough),
      ("property_identity", dto.propertyIdentity),
      ("summary", .arr dto.summary), ("sections", .arr dto.sections),
      ("cards", .arr dto.cards), ("findings", .arr dto.findings),
      ("media_slots", .arr dto.mediaSlots), ("diagram_slots", .arr dto.diagramSlots),
      ("glossary", .arr dto.glossary),
      ("evidence_disclosures", .arr dto.evidenceDisclosures),
      ("disclaimers", .arr dto.disclaimers), ("branding_reference", dto.brandingReference)]

/-! ## Projections -/

/-- `AudienceResponseProjector`, with `str` on the values of a payload. -/
structure AudienceResponseProjector where
  str : Json → String
  str_text : ∀ text, str (.str text) = text

/-- `payload[key]`. -/
def subscript (payload : Members) (key : String) : Except String Json :=
  orRaise (payload.lookup key) ("KeyError: " ++ key)

/-- `tuple(value)`. -/
def tuple : Json → Except String (List Json)
  | .arr items => .ok items
  | .obj members => .ok (members.map fun member => .str member.1)
  | .str text =>
      .ok (text.toList.map fun char => .str (String.singleton char))
  | .null | .bool _ | .int _ | .dec _ => .error "TypeError"

/-- `{k: deepcopy(value.get(k)) for k in fields}`. -/
def keepFields (fields : List String) : Json → Except String Json
  | .obj members =>
      .ok (.obj (fields.map fun key =>
        (key, (members.lookup key).getD .null)))
  | _ => .error "AttributeError"

/-- `tuple(keep(item) for item in payload[key])`. -/
def keptItems (fields : List String) (payload : Members) (key : String) :
    Except String (List Json) := do
  let listed ← subscript payload key >>= tuple
  listed.mapM (keepFields fields)

/-- The fields of `_base_finding_public`. -/
def publicFindingFields : List String :=
  ["finding_id", "finding_type", "label", "display_text", "section_id",
    "status_label", "limitation"]

/-- The fields of `_base_finding_seller`. -/
def sellerFindingFields : List String :=
  publicFindingFields ++ ["confidence_label"]

/-- The fields of `_sanitize_evidence_seller`. -/
def sellerEvidenceFields : List String :=
  ["disclosure_id", "finding_id", "source_category", "verified_at", "limitation"]

/-- `payload.get("metadata") or {}`, before its attributes are read. -/
def metadataOf (payload : Members) : Except String Members :=
  match payload.lookup "metadata" with
  | some (.obj members) => .ok members
  | some value => if Report.truthy value then .error "AttributeError" else .ok []
  | none => .ok []

namespace AudienceResponseProjector

/-- The check of `_require_payload_variant`. -/
def checkVariant (projector : AudienceResponseProjector) (actual : Option Json)
    (expected : Variant) : Except String Unit :=
  match actual.getD .null with
  | .str code =>
      require (code = expected.code)
        ("REPORT_VARIANT_MISMATCH:" ++ code ++ ":" ++ expected.code)
  | value =>
      .error ("REPORT_VARIANT_MISMATCH:" ++ projector.str value ++ ":" ++ expected.code)

/-- `_require_payload_variant`. -/
def requirePayloadVariant (projector : AudienceResponseProjector) (payload : Members)
    (expected : Variant) : Except String Members := do
  let metadata ← metadataOf payload
  projector.checkVariant (metadata.lookup "report_variant") expected
  return metadata

/-- The response of `public` before it is checked. -/
def publicResponse (projector : AudienceResponseProjector) (payload metadata : Members) :
    Except String PublicReportResponse := do
  let propertyId ← subscript metadata "property_id"
  let verifiedThrough ← subscript metadata "verified_through"
  let propertyIdentity ← subscript payload "property_identity"
  let summary ← subscript payload "summary" >>= tuple
  let sections ← subscript payload "sections" >>= tuple
  let cards ← subscript payload "cards" >>= tuple
  let findings ← keptItems publicFindingFields payload "findings"
  let mediaSlots ← subscript payload "media_slots" >>= tuple
  let diagramSlots ← subscript payload "diagram_slots" >>= tuple
  let glossary ← subscript payload "glossary" >>= tuple
  let disclaimers ← subscript payload "disclaimers" >>= tuple
  let brandingReference ← subscript payload "branding_reference"
  return {
    propertyId := projector.str propertyId
    reportVariant := "PUBLIC"
    verifiedThrough := projector.str verifiedThrough
    propertyIdentity := propertyIdentity
    summary := summary
    sections := sections
    cards := cards
    findings := findings
    mediaSlots := mediaSlots
    diagramSlots := diagramSlots
    glossary := glossary
    disclaimers := disclaimers
    brandingReference := brandingReference }

/-- `public`. -/
def «public» (projector : AudienceResponseProjector) (payload : Members) :
    Except String PublicReportResponse := do
  let metadata ← projector.requirePayloadVariant payload .pub
  let dto ← projector.publicResponse payload metadata
  requireClean .pub dto.toDict
  return dto

/-- The response of `seller` before it is checked. -/
def sellerResponse (projector : AudienceResponseProjector) (payload metadata : Members) :
    Except String SellerReportResponse := do
  let propertyId ← subscript metadata "property_id"
  let verifiedThrough ← subscript metadata "verified_through"
  let propertyIdentity ← subscript payload "property_identity"
  let summary ← subscript payload "summary" >>= tuple
  let sections ← subscript payload "sections" >>= tuple
  let cards ← subscript payload "cards" >>= tuple
  let findings ← keptItems sellerFindingFields payload "findings"
  let mediaSlots ← subscript payload "media_slots" >>= tuple
  let diagramSlots ← subscript payload "diagram_slots" >>= tuple
  let glossary ← subscript payload "glossary" >>= tuple
  let evidenceDisclosures ← keptItems sellerEvidenceFields payload "evidence_disclosures"
  let disclaimers ← subscript payload "disclaimers" >>= tuple
  let brandingReference ← subscript payload "branding_reference"
  return {
    propertyId := projector.str propertyId
    reportVariant := "SELLER"
    verifiedThrough := projector.str verifiedThrough
    marketDataThrough := (metadata.lookup "market_data_through").getD .null
    builderDataThrough := (metadata.lookup "builder_data_through").getD .null
    propertyIdentity := propertyIdentity
    summary := summary
    sections := sections
    cards := cards
    findings := findings
    mediaSlots := mediaSlots
    diagramSlots := diagramSlots
    glossary := glossary
    evidenceDisclosures := evidenceDisclosures
    disclaimers := disclaimers
    brandingReference := brandingReference }

/-- `seller`. -/
def seller (projector : AudienceResponseProjector) (payload : Members) :
    Except String SellerReportResponse := do
  let metadata ← projector.requirePayloadVariant payload .seller
  let dto ← projector.sellerResponse payload metadata
  requireClean .seller dto.toDict
  return dto

end AudienceResponseProjector

/-! ## Keys at any depth -/

/-- A key occurs in a value, at any depth. -/
inductive KeyOccurs (key : String) : Json → Prop
  | here {members : Members} {child : Json} : (key, child) ∈ members → KeyOccurs key (.obj members)
  | member {members : Members} {other : String} {child : Json} :
      (other, child) ∈ members → KeyOccurs key child → KeyOccurs key (.obj members)
  | item {items : List Json} {child : Json} :
      child ∈ items → KeyOccurs key child → KeyOccurs key (.arr items)

variable {forbidden fields : List String} {path key : String} {value : Json}

theorem walkMembers_eq_nil {members : Members} :
    walkMembers forbidden path members = [] ↔
      ∀ member ∈ members, member.1 ∉ forbidden ∧
        walk forbidden (memberPath path member.1) member.2 = [] := by
  induction members with
  | nil => simp [walkMembers]
  | cons member members ih =>
      simp [walkMembers, ih, and_assoc]

theorem walk_eq_nil_of_mem_items {index : Nat} {items : List Json} {child : Json}
    (clean : walkItems forbidden path index items = []) (present : child ∈ items) :
    ∃ inner, walk forbidden inner child = [] := by
  induction items generalizing index with
  | nil => cases present
  | cons item items ih =>
      rw [walkItems, List.append_eq_nil_iff] at clean
      rcases List.mem_cons.mp present with rfl | later
      · exact ⟨_, clean.1⟩
      · exact ih clean.2 later

/-- A walk without hits has met no forbidden key. -/
theorem not_keyOccurs_of_walk (clean : walk forbidden path value = [])
    (listed : key ∈ forbidden) : ¬KeyOccurs key value := by
  intro occurs
  induction occurs generalizing path with
  | here present =>
      rw [walk] at clean
      exact (walkMembers_eq_nil.mp clean _ present).1 listed
  | member present _ ih =>
      rw [walk] at clean
      exact ih (walkMembers_eq_nil.mp clean _ present).2
  | item present _ ih =>
      rw [walk] at clean
      obtain ⟨inner, nested⟩ := walk_eq_nil_of_mem_items clean present
      exact ih nested

theorem not_keyOccurs_of_requireClean {audience : Variant}
    (clean : requireClean audience value = .ok ())
    (listed : key ∈ forbiddenByAudience audience) :
    ¬KeyOccurs key value := by
  have sorted := require_eq_ok.mp clean
  have none := Sorting.sortedBy_perm id (walk (forbiddenByAudience audience) "" value)
  rw [← findForbidden, sorted] at none
  exact not_keyOccurs_of_walk none.nil_eq.symm listed

/-! ## What a response depends on -/

/-- Equal values, or dictionaries that agree on some keys. -/
inductive SameOn (keys : List String) : Json → Json → Prop
  | refl (value : Json) : SameOn keys value value
  | members {members others : Members} :
      (∀ key ∈ keys, members.lookup key = others.lookup key) →
        SameOn keys (.obj members) (.obj others)

/-- Equal values, or lists of the same length whose items agree on some
keys. -/
inductive SameItemsOn (keys : List String) : Json → Json → Prop
  | refl (value : Json) : SameItemsOn keys value value
  | items {items others : List Json} :
      List.Forall₂ (SameOn keys) items others → SameItemsOn keys (.arr items) (.arr others)

/-- Two payloads agree on the keys that are not free, on some fields of their
findings and on some of their metadata. -/
structure AgreesOn (free findingFields metadataFields : List String)
    (payload other : Members) : Prop where
  rest : ∀ key, key ∉ free → payload.lookup key = other.lookup key
  findings : Option.Rel (SameItemsOn findingFields)
    (payload.lookup "findings") (other.lookup "findings")
  metadata : Option.Rel (SameOn metadataFields)
    (payload.lookup "metadata") (other.lookup "metadata")

/-- Payloads that differ only in lineage, evidence, finding fields that the
public does not see, and metadata besides the property, the variant and the
date. -/
def PublicAgrees (payload other : Members) : Prop :=
  AgreesOn ["lineage", "findings", "evidence_disclosures", "metadata"]
    publicFindingFields ["property_id", "report_variant", "verified_through"]
    payload other

/-- Payloads that differ only in lineage and in finding fields that sellers do
not see. -/
def SellerAgrees (payload other : Members) : Prop :=
  (∀ key, key ∉ ["lineage", "findings"] → payload.lookup key = other.lookup key) ∧
  Option.Rel (SameItemsOn sellerFindingFields) (payload.lookup "findings") (other.lookup "findings")

theorem keepFields_congr {other : Json} (same : SameOn fields value other) :
    keepFields fields value = keepFields fields other := by
  cases same with
  | refl => rfl
  | members agree =>
      simp only [keepFields]
      congr 2
      apply List.map_congr_left
      intro key listed
      rw [agree key listed]

theorem mapM_keepFields_congr {items others : List Json}
    (same : List.Forall₂ (SameOn fields) items others) :
    items.mapM (keepFields fields) = others.mapM (keepFields fields) := by
  induction same with
  | nil => rfl
  | cons first _ ih =>
      rw [List.mapM_cons, List.mapM_cons, keepFields_congr first, ih]

/-- What is kept of some items depends on the listed fields alone. -/
theorem keptItems_congr {payload other : Members}
    (same : Option.Rel (SameItemsOn fields) (payload.lookup key) (other.lookup key)) :
    keptItems fields payload key = keptItems fields other key := by
  unfold keptItems subscript
  generalize payload.lookup key = found at same ⊢
  generalize other.lookup key = otherFound at same ⊢
  cases same with
  | none => rfl
  | some agree =>
      cases agree with
      | refl => rfl
      | items items => exact mapM_keepFields_congr items

/-- The metadata that a response reads. -/
theorem metadataOf_congr {payload other : Members}
    (same : Option.Rel (SameOn fields) (payload.lookup "metadata") (other.lookup "metadata")) :
    metadataOf payload = metadataOf other ∨
      ∃ metadata otherMetadata, metadataOf payload = .ok metadata ∧
        metadataOf other = .ok otherMetadata ∧
        ∀ key ∈ fields, metadata.lookup key = otherMetadata.lookup key := by
  unfold metadataOf
  generalize payload.lookup "metadata" = found at same ⊢
  generalize other.lookup "metadata" = otherFound at same ⊢
  cases same with
  | none => exact .inl rfl
  | some agree =>
      cases agree with
      | refl => exact .inl rfl
      | members members => exact .inr ⟨_, _, rfl, rfl, members⟩

theorem subscript_congr {payload other : Members}
    (same : payload.lookup key = other.lookup key) :
    subscript payload key = subscript other key := by
  rw [subscript, subscript, same]

namespace AudienceResponseProjector

variable {projector : AudienceResponseProjector}
  {payload other metadata otherMetadata : Members}

theorem publicResponse_congr
    (rest : ∀ key, key ∉ ["lineage", "findings", "evidence_disclosures", "metadata"] →
        payload.lookup key = other.lookup key)
    (findings : Option.Rel (SameItemsOn publicFindingFields)
      (payload.lookup "findings") (other.lookup "findings"))
    (metadataSame : ∀ key ∈ ["property_id", "report_variant", "verified_through"],
        metadata.lookup key = otherMetadata.lookup key) :
    projector.publicResponse payload metadata = projector.publicResponse other otherMetadata := by
  unfold publicResponse
  rw [subscript_congr (metadataSame "property_id" (by decide)),
    subscript_congr (metadataSame "verified_through" (by decide)),
    subscript_congr (rest "property_identity" (by decide)),
    subscript_congr (rest "summary" (by decide)),
    subscript_congr (rest "sections" (by decide)),
    subscript_congr (rest "cards" (by decide)),
    keptItems_congr findings,
    subscript_congr (rest "media_slots" (by decide)),
    subscript_congr (rest "diagram_slots" (by decide)),
    subscript_congr (rest "glossary" (by decide)),
    subscript_congr (rest "disclaimers" (by decide)),
    subscript_congr (rest "branding_reference" (by decide))]

theorem public_congr (agrees : PublicAgrees payload other) :
    projector.«public» payload = projector.«public» other := by
  unfold «public» requirePayloadVariant
  rcases metadataOf_congr agrees.metadata with
    same | ⟨metadata, otherMetadata, read, otherRead, same⟩
  · rw [same]
    congr 1
    funext metadata
    rw [publicResponse_congr agrees.rest agrees.findings fun _ _ => rfl]
  · have response : projector.publicResponse payload metadata =
        projector.publicResponse other otherMetadata :=
      publicResponse_congr agrees.rest agrees.findings same
    have variant := same "report_variant" (by decide)
    rw [read, otherRead]
    dsimp only [Bind.bind, Except.bind]
    rw [variant]
    cases projector.checkVariant (otherMetadata.lookup "report_variant")
      .pub with
    | error message => rfl
    | ok checked =>
        dsimp only [pure, Except.pure]
        rw [response]

theorem sellerResponse_congr (agrees : SellerAgrees payload other) :
    projector.sellerResponse payload metadata = projector.sellerResponse other metadata := by
  obtain ⟨rest, findings⟩ := agrees
  have evidence :
      keptItems sellerEvidenceFields payload "evidence_disclosures" =
        keptItems sellerEvidenceFields other "evidence_disclosures" := by
    unfold keptItems
    rw [subscript_congr (rest "evidence_disclosures" (by decide))]
  unfold sellerResponse
  rw [subscript_congr (rest "property_identity" (by decide)),
    subscript_congr (rest "summary" (by decide)),
    subscript_congr (rest "sections" (by decide)),
    subscript_congr (rest "cards" (by decide)),
    keptItems_congr findings,
    subscript_congr (rest "media_slots" (by decide)),
    subscript_congr (rest "diagram_slots" (by decide)),
    subscript_congr (rest "glossary" (by decide)),
    evidence,
    subscript_congr (rest "disclaimers" (by decide)),
    subscript_congr (rest "branding_reference" (by decide))]

theorem seller_congr (agrees : SellerAgrees payload other) :
    projector.seller payload = projector.seller other := by
  have same : metadataOf payload = metadataOf other := by
    unfold metadataOf
    rw [agrees.1 "metadata" (by decide)]
  unfold seller requirePayloadVariant
  rw [same]
  congr 1
  funext metadata
  rw [sellerResponse_congr agrees]

theorem requireClean_of_public {dto : PublicReportResponse}
    (ran : projector.«public» payload = .ok dto) :
    requireClean .pub dto.toDict = .ok () := by
  obtain ⟨metadata, -, ran⟩ := bind_eq_ok.mp ran
  obtain ⟨response, -, ran⟩ := bind_eq_ok.mp ran
  obtain ⟨⟨⟩, clean, ended⟩ := bind_eq_ok.mp ran
  cases ended
  exact clean

theorem requireClean_of_seller {dto : SellerReportResponse}
    (ran : projector.seller payload = .ok dto) :
    requireClean .seller dto.toDict = .ok () := by
  obtain ⟨metadata, -, ran⟩ := bind_eq_ok.mp ran
  obtain ⟨response, -, ran⟩ := bind_eq_ok.mp ran
  obtain ⟨⟨⟩, clean, ended⟩ := bind_eq_ok.mp ran
  cases ended
  exact clean

end AudienceResponseProjector

/-- No forbidden key occurs in a response, and payloads that differ in what an
audience does not see only are answered alike. -/
theorem responses_leak_nothing (projector : AudienceResponseProjector) (payload : Members) :
    (∀ dto, projector.«public» payload = .ok dto →
      ∀ key ∈ forbiddenByAudience .pub, ¬KeyOccurs key dto.toDict) ∧
    (∀ dto, projector.seller payload = .ok dto →
      ∀ key ∈ forbiddenByAudience .seller, ¬KeyOccurs key dto.toDict) ∧
    (∀ other, PublicAgrees payload other →
      projector.«public» payload = projector.«public» other) ∧
    ∀ other, SellerAgrees payload other →
      projector.seller payload = projector.seller other := by
  refine ⟨?_, ?_, ?_, ?_⟩
  · intro dto ran key listed
    exact not_keyOccurs_of_requireClean
      (AudienceResponseProjector.requireClean_of_public ran) listed
  · intro dto ran key listed
    exact not_keyOccurs_of_requireClean
      (AudienceResponseProjector.requireClean_of_seller ran) listed
  · intro other agrees
    exact AudienceResponseProjector.public_congr agrees
  · intro other agrees
    exact AudienceResponseProjector.seller_congr agrees

/-! ## Sample payloads -/

def sampleProjector : AudienceResponseProjector where
  str := Json.textD
  str_text := Json.textD_str

/-- A public payload with one finding of a snapshot. -/
def samplePayload (snapshotId : String) : Members :=
  [("metadata", .obj [("report_variant", .str "PUBLIC"), ("property_id", .str "p"),
        ("snapshot_id", .str snapshotId), ("verified_through", .str "d")]),
    ("property_identity", .obj [("address", .str "123 Test St")]),
    ("summary", .arr []), ("sections", .arr []), ("cards", .arr []), ("findings", .arr [.obj
      [("finding_id", .str "f"), ("source_snapshot_id", .str snapshotId)]]),
    ("media_slots", .arr []), ("diagram_slots", .arr []),
    ("glossary", .arr []), ("disclaimers", .arr []), ("branding_reference", .obj []),
    ("lineage", .obj [("snapshot_id", .str snapshotId)])]

theorem samplePayload_agrees : PublicAgrees (samplePayload "s") (samplePayload "t") := by
  refine ⟨?_, ?_, ?_⟩
  · intro key free
    simp only [List.mem_cons, List.not_mem_nil, or_false, not_or] at free
    obtain ⟨lineage, findings, -, metadata⟩ := free
    simp only [samplePayload, List.lookup_cons,
      beq_eq_false_iff_ne.mpr lineage, beq_eq_false_iff_ne.mpr findings,
      beq_eq_false_iff_ne.mpr metadata]
  · refine .some (.items (.cons (.members ?_) .nil))
    intro key listed
    simp only [publicFindingFields, List.mem_cons, List.not_mem_nil, or_false] at listed
    rcases listed with rfl | rfl | rfl | rfl | rfl | rfl | rfl <;> rfl
  · refine .some (.members ?_)
    intro key listed
    simp only [List.mem_cons, List.not_mem_nil, or_false] at listed
    rcases listed with rfl | rfl | rfl <;> rfl

theorem responses_leak_nothing_sample :
    (sampleProjector.«public» (samplePayload "s")).toOption.isSome = true ∧
      sampleProjector.«public» (samplePayload "s") =
        sampleProjector.«public» (samplePayload "t") :=
  ⟨by decide +kernel,
    (responses_leak_nothing sampleProjector (samplePayload "s")).2.2.1 _
      samplePayload_agrees⟩

end SanTanHeights.Security
