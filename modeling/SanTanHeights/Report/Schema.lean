import SanTanHeights.Foundation.Json

/-!
# Validation of canonical reports

`CanonicalReportSchema.validate` rejects presentation keys, applies the JSON
schema and checks the references between the parts of a payload.  The JSON
schema validator is a third-party package and a parameter here.
-/

namespace SanTanHeights.Report

open Foundation Foundation.Outcome

structure CanonicalReportSchema where
  /-- The first error of `iter_errors`, with its path. -/
  firstError : Json → Option String

/-- `FORBIDDEN_PRESENTATION_KEYS`. -/
def forbiddenPresentationKeys : List String :=
  ["css", "style", "styles", "x", "y", "width", "height", "pixels", "page_x", "page_y"]

/-- `key.lower() in FORBIDDEN_PRESENTATION_KEYS`.  Only ASCII letters have a
lower case among the letters of these keys. -/
def isPresentationKey (key : String) : Bool :=
  String.ofList (key.toList.map Char.toLower) ∈ forbiddenPresentationKeys

mutual

/-- `_reject_presentation_keys`. -/
def rejectPresentationKeys (path : String) : Json → Except String Unit
  | .obj members => rejectInMembers path members
  | .arr items => rejectInItems path 0 items
  | .null | .bool _ | .int _ | .dec _ | .str _ => .ok ()

def rejectInMembers (path : String) :
    List (String × Json) → Except String Unit
  | [] => .ok ()
  | (key, child) :: members => do
      require (isPresentationKey key = false)
        ("presentation-only key forbidden at " ++ path ++ ": " ++ key)
      rejectPresentationKeys (path ++ "." ++ key) child
      rejectInMembers path members

def rejectInItems (path : String) (index : Nat) :
    List Json → Except String Unit
  | [] => .ok ()
  | child :: items => do
      rejectPresentationKeys (path ++ "[" ++ toString index ++ "]") child
      rejectInItems path (index + 1) items

end

/-- A section, card or finding refers to known identifiers only. -/
def requireKnown (known : List String) (message : String) (references : List String) :
    Except String Unit :=
  require (∀ reference ∈ references, reference ∈ known) message

/-- `_validate_cross_references`.  The schema admits texts and integers only
where these are read. -/
def validateCrossReferences (payload : Json) : Except String Unit := do
  let identity ← payload.item "property_identity"
  let metadata ← payload.item "metadata"
  let lineage ← payload.item "lineage"
  let identityProperty ← identity.textItem "property_id"
  let metadataProperty ← metadata.textItem "property_id"
  require (identityProperty = metadataProperty)
    "property identity does not match metadata property_id"
  let lineageSnapshot ← lineage.textItem "snapshot_id"
  let metadataSnapshot ← metadata.textItem "snapshot_id"
  require (lineageSnapshot = metadataSnapshot)
    "lineage snapshot_id does not match metadata snapshot_id"
  let sections ← payload.item "sections" >>= Json.items
  let sectionIds ← sections.mapM (Json.textItem "section_id")
  require sectionIds.Nodup "duplicate section_id"
  let orders ← sections.mapM fun entry => entry.item "order" >>= Json.integer
  require (orders.Pairwise (· < ·)) "section order must be unique and ascending"
  let findings ← payload.item "findings" >>= Json.items
  let findingIds ← findings.mapM (Json.textItem "finding_id")
  let cards ← payload.item "cards" >>= Json.items
  let cardIds ← cards.mapM (Json.textItem "card_id")
  require cardIds.Nodup "duplicate card_id"
  findings.forM fun finding => do
    let sectionId ← finding.textItem "section_id"
    requireKnown sectionIds ("finding references unknown section: " ++ sectionId) [sectionId]
  cards.forM fun card => do
    let sectionId ← card.textItem "section_id"
    requireKnown sectionIds ("card references unknown section: " ++ sectionId) [sectionId]
    let references ← card.textItems "finding_ids"
    requireKnown findingIds "card references unknown findings" references
  sections.forM fun entry => do
    let references ← entry.textItems "card_ids"
    requireKnown cardIds "section references unknown cards" references

/-- `CanonicalReportSchema.validate`. -/
def CanonicalReportSchema.validate (schema : CanonicalReportSchema) (payload : Json) :
    Except String Unit := do
  rejectPresentationKeys "<root>" payload
  match schema.firstError payload with
  | some message => .error message
  | none => validateCrossReferences payload

end SanTanHeights.Report
